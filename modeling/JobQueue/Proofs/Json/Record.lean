import JobQueue.Proofs.Json.Value

/-! Which values of a codec are read back from what is written for them. A record is read back if its
fields are; those of a record that was read have been read themselves, or are what a field holds that is
not there. -/

namespace JobQueue.Json

variable {α β γ σ : Type}

namespace Codec

variable {depth : Nat}

/-- A value is read back from what is written for it, whatever may follow. -/
def ReadsBack (c : Codec α) (depth : Nat) (a : α) : Prop :=
  ∀ rest, MayFollow rest → c.read depth (c.chars a ++ rest) = .ok (a, rest)

theorem ReadsBack.ofText {c : Codec α} {a : α} (h : c.ReadsBack nestingLimit a) :
    c.ofText (c.text a) = .ok a := by
  have hread := h [] mayFollow_nil
  rw [List.append_nil] at hread
  rw [Codec.ofText, document, text, String.toList_ofList, hread]
  rfl

/-! ### Single values -/

theorem string_readsBack (s : String) : string.ReadsBack depth s := by
  intro rest _
  have hchars : string.chars s ++ rest = '"' :: (quoteChars s.toList ++ '"' :: rest) := by
    simp [string, quoted]
  rw [hchars]
  exact readString_quoteChars s rest

theorem word_readsBack {limit n : Nat} {name : String} (hn : n ≤ limit) (hlimit : limit ≤ Word.max64) :
    (word limit name).ReadsBack depth n := by
  intro rest hrest
  obtain ⟨d, ds, hdigits, hd⟩ := Text.exists_natDigits n
  have hread := readNumber_intDigits (i := n) (by simp only [Word.signedMin64]; omega) (by omega) hrest
  have hunsigned : Text.intDigits n = Text.natDigits n := by
    rw [Text.intDigits, if_neg (by omega), Int.natAbs_natCast]
  rw [hunsigned, hdigits, List.cons_append] at hread
  change (word limit name).read depth (Text.natDigits n ++ rest) = _
  rw [hdigits, List.cons_append, word]
  dsimp only
  rw [skipBlank_cons (number_not_isBlank (.inr hd))]
  simp only [hd, Bool.or_true, if_true, hread]
  have hrange : (0 ≤ (n : Int) && (n : Int) ≤ limit) = true := by
    simp
    omega
  change (if (0 ≤ (n : Int) && (n : Int) ≤ limit) = true then _ else _) = _
  rw [if_pos hrange, Int.toNat_natCast]

/-- A word that is read is within its limit. -/
theorem word_read_le {limit n : Nat} {name : String} {cs cs' : List Char}
    (h : (word limit name).read depth cs = .ok (n, cs')) : n ≤ limit := by
  dsimp only [word] at h
  split at h
  · cases h
  · split at h
    · obtain ⟨⟨number, _⟩, -, h⟩ := exists_of_bind_eq_ok h
      split at h
      next i _ _ =>
        split at h
        next hrange =>
          cases h
          simp only [Bool.and_eq_true, decide_eq_true_eq] at hrange
          omega
        next => cases h
      next => cases h
    · cases h

theorem bool_readsBack (b : Bool) : bool.ReadsBack depth b := by
  intro rest _
  cases b <;> rfl

/-- What is written by way of another type is read back if that is, and if it stands for the value. -/
theorem via_readsBack {c : Codec α} {decode : α → Except Mismatch β} {encode : β → α} {b : β}
    (h : c.ReadsBack depth (encode b)) (hdecode : decode (encode b) = .ok b) :
    (c.via decode encode).ReadsBack depth b := by
  intro rest hrest
  refine (bind_eq_of_eq_ok (h rest hrest)).trans ?_
  simp only [hdecode]

theorem exists_of_via_read {c : Codec α} {decode : α → Except Mismatch β} {encode : β → α} {b : β}
    {cs cs' : List Char} (h : (c.via decode encode).read depth cs = .ok (b, cs')) :
    ∃ a, c.read depth cs = .ok (a, cs') ∧ decode a = .ok b := by
  obtain ⟨⟨a, cs₁⟩, hread, h⟩ := exists_of_bind_eq_ok h
  dsimp only at h
  split at h
  next hdecode =>
    cases h
    exact ⟨a, hread, hdecode⟩
  next => cases h

theorem any_readsBack {j : Json} (hfits : Fits depth j) (hfree : FloatFree j) : any.ReadsBack depth j :=
  fun _ hrest => readValue_chars hfits hfree hrest

theorem moment_readsBack {m : Time.Moment} (h : Time.Moment.ofText m.text = .ok m) :
    moment.ReadsBack depth m := by
  intro rest _
  have hchars : moment.chars m ++ rest =
      '"' :: (quoteChars (String.ofList m.text).toList ++ '"' :: rest) := by
    simp [moment, quoted]
  rw [hchars]
  refine (bind_eq_of_eq_ok (readString_quoteChars (String.ofList m.text) rest)).trans ?_
  simp only [String.toList_ofList, h]

theorem none_readsBack (c : Codec α) : c.optional.ReadsBack depth none :=
  fun _ _ => rfl

/-- A value is told apart from nothing by its first character. -/
theorem some_readsBack {c : Codec α} {a : α} {first : Char} {tail : List Char} (h : c.ReadsBack depth a)
    (hchars : c.chars a = first :: tail) (hfirst : (!isBlank first && first != 'n') = true) :
    c.optional.ReadsBack depth (some a) := by
  intro rest hrest
  simp only [Bool.and_eq_true, Bool.not_eq_true', bne_iff_ne] at hfirst
  have hread := h rest hrest
  change c.optional.read depth (c.chars a ++ rest) = _
  rw [hchars, List.cons_append] at hread ⊢
  simp only [optional, skipBlank_cons hfirst.1]
  split
  next heq => exact absurd (List.cons.inj heq).1 hfirst.2
  next => rw [hread]; rfl

/-- What is written for a value starts it, and not as `null` does. -/
def IsApart (c : Codec α) (a : α) : Prop :=
  ∃ first tail, c.chars a = first :: tail ∧ (!isBlank first && first != 'n') = true

theorem word_isApart {limit : Nat} {name : String} (n : Nat) : (word limit name).IsApart n := by
  obtain ⟨d, ds, hdigits, hd⟩ := Text.exists_natDigits n
  have hn : d ≠ 'n' := number_ne (.inr hd) rfl
  exact ⟨d, ds, hdigits, by simp [number_not_isBlank (.inr hd), hn]⟩

theorem bool_isApart (b : Bool) : bool.IsApart b := by
  cases b
  · exact ⟨'f', _, rfl, rfl⟩
  · exact ⟨'t', _, rfl, rfl⟩

theorem record_isApart {name : String} {row : Row β σ} {make : β → γ} {split : γ → β} (c : γ) :
    (record name row make split).IsApart c :=
  ⟨'{', _, rfl, rfl⟩

theorem optional_readsBack {c : Codec α} {o : Option α} (happart : ∀ a ∈ o, c.IsApart a)
    (h : ∀ a ∈ o, c.ReadsBack depth a) : c.optional.ReadsBack depth o := by
  cases o with
  | none => exact none_readsBack c
  | some a =>
    obtain ⟨first, tail, hchars, hfirst⟩ := happart a rfl
    exact some_readsBack (h a rfl) hchars hfirst

/-- An optional value that is there has been read. -/
theorem exists_of_optional_read {c : Codec α} {a : α} {cs cs' : List Char}
    (h : c.optional.read depth cs = .ok (some a, cs')) : ∃ cs₁, c.read depth cs₁ = .ok (a, cs') := by
  dsimp only [optional] at h
  split at h
  · obtain ⟨_, -, h⟩ := exists_of_bind_eq_ok h
    cases h
  · obtain ⟨⟨a', cs₁⟩, hread, h⟩ := exists_of_bind_eq_ok h
    cases h
    exact ⟨_, hread⟩

theorem optional_string_readsBack (s : Option String) : string.optional.ReadsBack depth s := by
  cases s with
  | none => exact none_readsBack string
  | some s => exact some_readsBack (string_readsBack s) rfl rfl

end Codec

/-! ### Fields that are written -/

namespace Row

def names : {β σ : Type} → Row β σ → List String
  | _, _, .nil => []
  | _, _, .cons field rest => field.name :: rest.names

/-- The members that are written, by their names and the texts of their values. -/
def written : {β σ : Type} → Row β σ → β → List (String × List Char)
  | _, _, .nil, () => []
  | _, _, .cons field rest, (a, b) =>
    if field.omits a then rest.written b else (field.name, field.codec.chars a) :: rest.written b

/-- Every field is read back, or is left out and holds what it holds then. -/
def ReadsBack (depth : Nat) : {β σ : Type} → Row β σ → β → Prop
  | _, _, .nil, () => True
  | _, _, .cons field rest, (a, b) =>
    (if field.omits a then field.missing = some a else field.codec.ReadsBack depth a) ∧
      rest.ReadsBack depth b

theorem readsBack_cons {depth : Nat} {field : Field α} {rest : Row β σ} {a : α} {b : β}
    (homits : field.omits a = false) (ha : field.codec.ReadsBack depth a) (hb : rest.ReadsBack depth b) :
    (Row.cons field rest).ReadsBack depth (a, b) := by
  refine ⟨?_, hb⟩
  rw [homits]
  exact ha

/-- A field that is left out if it holds nothing needs to be read back only if it holds something. -/
theorem readsBack_omitted {depth : Nat} {name : String} {codec : Codec α} {rest : Row β σ} {a : Option α}
    {b : β} (ha : codec.optional.ReadsBack depth a) (hb : rest.ReadsBack depth b) :
    (Row.cons (Field.omitted name codec) rest).ReadsBack depth (a, b) := by
  refine ⟨?_, hb⟩
  cases a with
  | none => rfl
  | some a => exact ha

theorem memberChars_eq_written : {β σ : Type} → (row : Row β σ) → (b : β) →
    row.memberChars b = (row.written b).map writtenText
  | _, _, .nil, () => rfl
  | _, _, .cons field rest, (a, b) => by
    have hrest := rest.memberChars_eq_written b
    rw [memberChars, written]
    split
    · exact hrest
    · rw [hrest]
      rfl

theorem name_mem_names : {β σ : Type} → {row : Row β σ} → {b : β} → {m : String × List Char} →
    m ∈ row.written b → m.1 ∈ row.names
  | _, _, .nil, (), _, h => by cases h
  | _, _, .cons field rest, (a, b), m, h => by
    rw [written] at h
    split at h
    · exact .tail _ (name_mem_names h)
    · obtain rfl | h := List.mem_cons.1 h
      · exact .head _
      · exact .tail _ (name_mem_names h)

/-- Members of other names go on to the other fields. -/
theorem takes_rest {depth : Nat} {field : Field α} {rest : Row β σ} {slot : Option α} {slots slots' : σ}
    {members : List (String × List Char)} (hnames : ∀ m ∈ members, field.name ≠ m.1)
    (h : Takes (rest.readMember depth) slots members slots') :
    Takes ((Row.cons field rest).readMember depth) (slot, slots) members (slot, slots') := by
  induction members generalizing slots with
  | nil => exact congrArg _ h
  | cons m members ih =>
    obtain ⟨hm, hmembers⟩ := List.forall_mem_cons.1 hnames
    obtain ⟨slots₁, hread, hlater⟩ := h
    refine ⟨(slot, slots₁), fun cs hcs => ?_, ih hmembers hlater⟩
    change (Row.cons field rest).readMember depth m.1 (slot, slots) (':' :: (m.2 ++ cs)) = _
    have hm₁ : rest.readMember depth m.1 slots (':' :: (m.2 ++ cs)) = .ok (slots₁, cs) := hread cs hcs
    unfold readMember
    rw [if_neg hm, hm₁]
    rfl

/-- The fields of a record whose names differ are read back one after another. -/
theorem exists_takes {depth : Nat} : {β σ : Type} → {row : Row β σ} → {b : β} → row.names.Nodup →
    row.ReadsBack depth b →
    ∃ slots, Takes (row.readMember depth) row.empty (row.written b) slots ∧ row.complete slots = .ok b
  | _, _, .nil, (), _, _ => ⟨(), rfl, rfl⟩
  | _, _, .cons field rest, (a, b), hnames, hback => by
    obtain ⟨hname, hrest⟩ := List.nodup_cons.1 hnames
    obtain ⟨hfield, hback⟩ := hback
    obtain ⟨slots, htakes, hcomplete⟩ := exists_takes hrest hback
    have hother : ∀ m ∈ rest.written b, field.name ≠ m.1 :=
      fun m hm heq => hname (heq ▸ name_mem_names hm)
    by_cases homits : field.omits a = true
    · rw [if_pos homits] at hfield
      refine ⟨(none, slots), ?_, ?_⟩
      · rw [written, if_pos homits]
        exact takes_rest hother htakes
      · simp [complete, hfield, hcomplete, bind, Except.bind]
    · rw [if_neg homits] at hfield
      refine ⟨(some a, slots), ?_, ?_⟩
      · rw [written, if_neg homits]
        refine ⟨(some a, rest.empty), fun cs hcs => ?_, takes_rest hother htakes⟩
        have hread := hfield cs hcs
        change (Row.cons field rest).readMember depth field.name (none, rest.empty)
          (':' :: (field.codec.chars a ++ cs)) = _
        rw [readMember, if_pos rfl]
        have hcolon : skipColon (':' :: (field.codec.chars a ++ cs)) = .ok (field.codec.chars a ++ cs) := rfl
        exact (bind_eq_of_eq_ok hcolon).trans (bind_eq_of_eq_ok hread)
      · simp [complete, hcomplete, bind, Except.bind]

end Row

theorem Codec.record_readsBack {depth : Nat} {name : String} {row : Row β σ} {make : β → γ} {split : γ → β}
    {c : γ} (hnames : row.names.Nodup) (hback : row.ReadsBack depth (split c)) (hmake : make (split c) = c) :
    (Codec.record name row make split).ReadsBack (depth + 1) c := by
  intro rest _
  obtain ⟨slots, htakes, hcomplete⟩ := Row.exists_takes hnames hback
  have hlength := length_le_written (row.written (split c))
  have hchars : (Codec.record name row make split).chars c ++ rest =
      '{' :: (commaSeparated ((row.written (split c)).map writtenText) ++ '}' :: rest) := by
    simp [Codec.record, objectText, Row.memberChars_eq_written]
  have hclose : closeObject ('}' :: rest) = .ok rest := rfl
  rw [hchars]
  refine (bind_eq_of_eq_ok (readMembers_written htakes (by rw [List.length_append]; omega))).trans ?_
  refine (bind_eq_of_eq_ok hcomplete).trans ?_
  refine (bind_eq_of_eq_ok hclose).trans ?_
  exact congrArg (fun c => Except.ok (c, rest)) hmake

/-! ### Fields that are read -/

namespace Row

/-- Every slot is free or holds what was read for its field. -/
def Filled (depth : Nat) : {β σ : Type} → Row β σ → σ → Prop
  | _, _, .nil, () => True
  | _, _, .cons field rest, (slot, slots) =>
    (∀ a, slot = some a → ∃ cs cs', field.codec.read depth cs = .ok (a, cs')) ∧ rest.Filled depth slots

/-- Every field holds what was read for it, or what it holds if it is not there. -/
def Holds (depth : Nat) : {β σ : Type} → Row β σ → β → Prop
  | _, _, .nil, () => True
  | _, _, .cons field rest, (a, b) =>
    ((∃ cs cs', field.codec.read depth cs = .ok (a, cs')) ∨ field.missing = some a ∨ field.short = some a) ∧
      rest.Holds depth b

theorem Holds.required {depth : Nat} {name : String} {codec : Codec α} {rest : Row β σ} {a : α} {b : β}
    (h : (Row.cons (Field.required name codec) rest).Holds depth (a, b)) :
    (∃ cs cs', codec.read depth cs = .ok (a, cs')) ∧ rest.Holds depth b := by
  obtain ⟨hread | hmissing | hshort, hrest⟩ := h
  · exact ⟨hread, hrest⟩
  · cases hmissing
  · cases hshort

/-- A field that may hold nothing holds nothing if it is not there. -/
theorem Holds.optional {depth : Nat} {field : Field (Option α)} {codec : Codec α} {rest : Row β σ}
    {o : Option α} {b : β} (h : (Row.cons field rest).Holds depth (o, b)) (hcodec : field.codec = codec.optional)
    (hmissing : ∀ a, field.missing ≠ some (some a)) (hshort : ∀ a, field.short ≠ some (some a)) :
    (∀ a ∈ o, ∃ cs cs', codec.read depth cs = .ok (a, cs')) ∧ rest.Holds depth b := by
  obtain ⟨hfield, hrest⟩ := h
  refine ⟨?_, hrest⟩
  rintro a rfl
  obtain ⟨_, cs', hread⟩ | h | h := hfield
  · rw [hcodec] at hread
    obtain ⟨cs, hread⟩ := Codec.exists_of_optional_read hread
    exact ⟨cs, cs', hread⟩
  · exact absurd h (hmissing a)
  · exact absurd h (hshort a)

theorem filled_empty (depth : Nat) : {β σ : Type} → (row : Row β σ) → row.Filled depth row.empty
  | _, _, .nil => trivial
  | _, _, .cons _ rest => ⟨nofun, rest.filled_empty depth⟩

theorem Filled.readMember {depth : Nat} {name : String} : {β σ : Type} → {row : Row β σ} →
    {slots slots' : σ} → {cs cs' : List Char} → row.Filled depth slots →
    row.readMember depth name slots cs = .ok (slots', cs') → row.Filled depth slots'
  | _, _, .nil, (), (), _, _, _, _ => trivial
  | _, _, .cons field rest, (slot, slots), (slot', slots'), cs, cs', hfilled, h => by
    obtain ⟨hslot, hslots⟩ := hfilled
    unfold Row.readMember at h
    split at h
    · split at h
      · cases h
      · obtain ⟨_, -, h⟩ := exists_of_bind_eq_ok h
        obtain ⟨⟨a, _⟩, hread, h⟩ := exists_of_bind_eq_ok h
        cases h
        refine ⟨?_, hslots⟩
        rintro _ ⟨⟩
        exact ⟨_, _, hread⟩
    · obtain ⟨⟨later, _⟩, hlater, h⟩ := exists_of_bind_eq_ok h
      cases h
      exact ⟨hslot, hslots.readMember hlater⟩

theorem Filled.complete {depth : Nat} : {β σ : Type} → {row : Row β σ} → {slots : σ} → {b : β} →
    row.Filled depth slots → row.complete slots = .ok b → row.Holds depth b
  | _, _, .nil, (), (), _, _ => trivial
  | _, _, .cons field rest, (slot, slots), (a, b), hfilled, h => by
    obtain ⟨hslot, hslots⟩ := hfilled
    unfold Row.complete at h
    split at h
    · cases h
    next a' ha' =>
      obtain ⟨b', hb', h⟩ := exists_of_bind_eq_ok h
      cases h
      refine ⟨?_, hslots.complete hb'⟩
      cases slot with
      | none => exact .inr (.inl ha')
      | some held =>
        cases ha'
        exact .inl (hslot a rfl)

theorem holds_of_readItems {depth : Nat} {expected : String} : {β σ : Type} → {row : Row β σ} →
    {b : β} → {cs cs' : List Char} → {done : Nat} → row.readItems depth expected done cs = .ok (b, cs') →
    row.Holds depth b
  | _, _, .nil, (), _, _, _, _ => trivial
  | _, _, .cons field rest, (a, b), cs, cs', done, h => by
    unfold Row.readItems at h
    obtain ⟨next?, -, h⟩ := exists_of_bind_eq_ok h
    split at h
    · obtain ⟨⟨a', _⟩, ha, h⟩ := exists_of_bind_eq_ok h
      obtain ⟨⟨b', _⟩, hb, h⟩ := exists_of_bind_eq_ok h
      cases h
      exact ⟨.inl ⟨_, _, ha⟩, holds_of_readItems hb⟩
    · cases h
    next hshort =>
      obtain ⟨⟨b', _⟩, hb, h⟩ := exists_of_bind_eq_ok h
      cases h
      exact ⟨.inr (.inr hshort), holds_of_readItems hb⟩

end Row

/-- A record is read one level deeper, from an array or an object. -/
theorem Codec.exists_of_record_read {depth : Nat} {name : String} {row : Row β σ} {make : β → γ}
    {split : γ → β} {c : γ} {cs cs' : List Char}
    (h : (Codec.record name row make split).read depth cs = .ok (c, cs')) :
    ∃ d b, depth = d + 1 ∧ row.Holds d b ∧ c = make b := by
  dsimp only [Codec.record] at h
  split at h
  · split at h
    · cases h
    next d =>
      obtain ⟨⟨b, _⟩, hb, h⟩ := exists_of_bind_eq_ok h
      obtain ⟨_, -, h⟩ := exists_of_bind_eq_ok h
      cases h
      exact ⟨d, b, rfl, Row.holds_of_readItems hb, rfl⟩
  · split at h
    · cases h
    next d =>
      obtain ⟨⟨slots, _⟩, hslots, h⟩ := exists_of_bind_eq_ok h
      obtain ⟨b, hb, h⟩ := exists_of_bind_eq_ok h
      obtain ⟨_, -, h⟩ := exists_of_bind_eq_ok h
      cases h
      have hfilled := readMembers_induction (P := row.Filled d)
        (fun _ _ _ _ _ hs hmember => hs.readMember hmember) _ _ (row.filled_empty d) hslots
      exact ⟨d, b, rfl, hfilled.complete hb, rfl⟩
  · cases h

/-- The fields of a record that is a whole text. -/
theorem Codec.exists_of_record_ofText {name : String} {row : Row β σ} {make : β → γ} {split : γ → β} {c : γ}
    {t : String} (h : (Codec.record name row make split).ofText t = .ok c) :
    ∃ b, row.Holds (nestingLimit - 1) b ∧ c = make b := by
  obtain ⟨⟨c', rest⟩, hread, h⟩ := exists_of_bind_eq_ok h
  dsimp only at h
  split at h
  · cases h
    obtain ⟨d, b, hdepth, hholds, hmake⟩ := Codec.exists_of_record_read hread
    obtain rfl : d = nestingLimit - 1 := by omega
    exact ⟨b, hholds, hmake⟩
  · cases h

end JobQueue.Json
