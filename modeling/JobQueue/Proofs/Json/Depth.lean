import JobQueue.Proofs.Json.Record

/-! Reading where more levels may open. What is read with some limit on the levels is read in the same way
with any greater limit, so that a text that was written for a value is read as that value or not at
all. -/

namespace JobQueue.Json

variable {α β γ σ : Type}

/-! ### Readers that read more -/

/-- What comes of one reading comes of another one as well. -/
def Within (x y : Except Fault α) : Prop :=
  ∀ a, x = .ok a → y = .ok a

theorem Within.refl (x : Except Fault α) : Within x x :=
  fun _ h => h

theorem Within.bind {x y : Except Fault α} {f g : α → Except Fault β} (h : Within x y)
    (hfg : ∀ a, Within (f a) (g a)) : Within (x >>= f) (y >>= g) := by
  intro b hb
  obtain ⟨a, ha, hf⟩ := exists_of_bind_eq_ok hb
  exact (bind_eq_of_eq_ok (h a ha)).trans (hfg a b hf)

/-- Only the first of two readings differs. -/
theorem Within.bind_left {x y : Except Fault α} (h : Within x y) (f : α → Except Fault β) :
    Within (x >>= f) (y >>= f) :=
  h.bind fun a => .refl (f a)

theorem readItems_within {item item' : Reader α} (h : ∀ cs, Within (item cs) (item' cs)) (fuel : Nat)
    (first : Bool) (cs : List Char) :
    Within (readItems item fuel first cs) (readItems item' fuel first cs) := by
  induction fuel generalizing first cs with
  | zero => exact .refl _
  | succ fuel ih =>
    refine (Within.refl (nextItem first cs)).bind fun next? => ?_
    cases next? with
    | none => exact .refl _
    | some cs => exact (h cs).bind fun (_, cs) => (ih false cs).bind_left _

theorem readMembers_within {member member' : String → σ → Reader σ}
    (h : ∀ name s cs, Within (member name s cs) (member' name s cs)) (fuel : Nat) (first : Bool) (s : σ)
    (cs : List Char) : Within (readMembers member fuel first s cs) (readMembers member' fuel first s cs) := by
  induction fuel generalizing first s cs with
  | zero => exact .refl _
  | succ fuel ih =>
    refine (Within.refl (nextName first cs)).bind fun name? => ?_
    cases name? with
    | none => exact .refl _
    | some cs =>
      exact (Within.refl (readString cs)).bind fun (name, cs) =>
        (h name s cs).bind fun (s, cs) => ih false s cs

/-! ### Values -/

/-- A value is read alike with one level more, given that this is so for the values in it. -/
theorem readValue_within_of {depth : Nat}
    (hdeeper : ∀ d, depth = d + 1 → ∀ cs, Within (readValue d cs) (readValue depth cs)) (cs : List Char) :
    Within (readValue depth cs) (readValue (depth + 1) cs) := by
  unfold readValue
  split
  case h_6 cs =>
    cases depth with
    | zero => exact nofun
    | succ d => exact ((readItems_within (hdeeper d rfl) _ _ _).bind_left _).bind_left _
  case h_7 cs =>
    cases depth with
    | zero => exact nofun
    | succ d =>
      refine Within.bind_left (Within.bind_left (readMembers_within (fun name members cs => ?_) _ _ _ _) _) _
      exact (Within.refl (skipColon cs)).bind fun value => (hdeeper d rfl value).bind_left _
  all_goals exact .refl _

theorem readValue_within (depth : Nat) (cs : List Char) :
    Within (readValue depth cs) (readValue (depth + 1) cs) := by
  induction depth generalizing cs with
  | zero =>
    refine readValue_within_of (fun d hd => ?_) cs
    cases hd
  | succ depth ih =>
    refine readValue_within_of (fun d hd => ?_) cs
    obtain rfl := Nat.succ.inj hd
    exact ih

/-! ### Codecs -/

namespace Codec

/-- Whatever a codec reads, it reads in the same way where one more level may open. -/
def Deepens (c : Codec α) : Prop :=
  ∀ depth cs, Within (c.read depth cs) (c.read (depth + 1) cs)

theorem string_deepens : string.Deepens :=
  fun _ _ => .refl _

theorem word_deepens (limit : Nat) (name : String) : (word limit name).Deepens :=
  fun _ _ => .refl _

theorem any_deepens : any.Deepens :=
  readValue_within

end Codec

/-- Every field of a row reads alike one level up. -/
def Row.Deepens : {β σ : Type} → Row β σ → Prop
  | _, _, .nil => True
  | _, _, .cons field rest => field.codec.Deepens ∧ rest.Deepens

namespace Row

theorem readMember_within (depth : Nat) (name : String) : {β σ : Type} → {row : Row β σ} → row.Deepens →
    (slots : σ) → (cs : List Char) →
    Within (row.readMember depth name slots cs) (row.readMember (depth + 1) name slots cs)
  | _, _, .nil, _, (), _ => .refl _
  | _, _, .cons field rest, h, (slot, slots), cs => by
    obtain ⟨hfield, hrest⟩ := h
    unfold readMember
    split
    · cases slot with
      | some _ => exact .refl _
      | none =>
        exact (Within.refl (skipColon cs)).bind fun value => (hfield depth value).bind_left _
    · exact (readMember_within depth name hrest slots cs).bind_left _

theorem readItems_within (depth : Nat) (expected : String) : {β σ : Type} → {row : Row β σ} → row.Deepens →
    (done : Nat) → (cs : List Char) →
    Within (row.readItems depth expected done cs) (row.readItems (depth + 1) expected done cs)
  | _, _, .nil, _, _, _ => .refl _
  | _, _, .cons field rest, h, done, cs => by
    obtain ⟨hfield, hrest⟩ := h
    unfold Row.readItems
    refine (Within.refl (nextItem (done == 0) cs)).bind fun next? => ?_
    split
    · exact (hfield depth _).bind fun (_, cs) => (readItems_within depth expected hrest _ cs).bind_left _
    · exact .refl _
    · exact (readItems_within depth expected hrest _ cs).bind_left _

end Row

namespace Codec

theorem record_deepens {name : String} {row : Row β σ} {make : β → γ} {split : γ → β} (h : row.Deepens) :
    (Codec.record name row make split).Deepens := by
  intro depth cs
  unfold Codec.record
  dsimp only
  split
  · cases depth with
    | zero => exact nofun
    | succ depth => exact (Row.readItems_within depth _ h 0 _).bind_left _
  · cases depth with
    | zero => exact nofun
    | succ depth =>
      exact (readMembers_within (fun name => Row.readMember_within depth name h) _ _ _ _).bind_left _
  · exact .refl _

/-- What is read from a text that was written is what was written, if the text could be read with one
level more. -/
theorem Deepens.eq_of_ofText_text {c : Codec α} (hc : c.Deepens) {a a' : α}
    (hback : c.ReadsBack (nestingLimit + 1) a) (h : c.ofText (c.text a) = .ok a') : a' = a := by
  obtain ⟨⟨read, rest⟩, hread, h⟩ := exists_of_bind_eq_ok h
  rw [text, String.toList_ofList] at hread
  have hwritten := hback [] mayFollow_nil
  rw [List.append_nil] at hwritten
  cases hwritten.symm.trans (hc nestingLimit _ _ hread)
  cases h
  rfl

end Codec

/-! ### Whole texts -/

/-- A value that was read can be read. -/
theorem fits_of_ofText {t : String} {j : Json} (h : Json.ofText t = .ok j) : Fits nestingLimit j := by
  obtain ⟨⟨read, rest⟩, hread, h⟩ := exists_of_bind_eq_ok h
  dsimp only at h
  split at h
  · cases h
    exact readValue_fits hread
  · cases h

/-- A value that can be read is read from some text. -/
theorem exists_ofText {j : Json} (hfits : Fits nestingLimit j) (hfree : FloatFree j) :
    ∃ t, Json.ofText t = .ok j :=
  ⟨Codec.any.text j, (Codec.any_readsBack hfits hfree).ofText⟩

/-! ### Arrays in one another -/

/-- An empty array in so many others. -/
def nested : Nat → Json
  | 0 => .array []
  | n + 1 => .array [nested n]

theorem fits_nested_iff {depth n : Nat} : Fits depth (nested n) ↔ n < depth := by
  induction n generalizing depth with
  | zero =>
    refine ⟨fun h => ?_, fun h => ?_⟩
    · cases h with
      | array => exact Nat.succ_pos _
    · obtain ⟨d, rfl⟩ := Nat.exists_eq_add_one.2 h
      exact .array (by simp)
  | succ n ih =>
    refine ⟨fun h => ?_, fun h => ?_⟩
    · cases h with
      | array hitems => exact Nat.succ_lt_succ (ih.1 (hitems _ (.head _)))
    · obtain ⟨d, rfl⟩ := Nat.exists_eq_add_one_of_ne_zero (Nat.ne_zero_of_lt h)
      refine .array fun item hitem => ?_
      obtain rfl := List.mem_singleton.1 hitem
      exact ih.2 (Nat.lt_of_succ_lt_succ h)

theorem floatFree_nested (n : Nat) : FloatFree (nested n) := by
  induction n with
  | zero => exact .array (by simp)
  | succ n ih =>
    refine .array fun item hitem => ?_
    obtain rfl := List.mem_singleton.1 hitem
    exact ih

end JobQueue.Json
