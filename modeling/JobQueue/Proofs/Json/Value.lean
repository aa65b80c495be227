import JobQueue.Proofs.Json.Numeral
import JobQueue.Proofs.Json.Quoted

/-! A JSON value without floating-point numbers is read back from the text that is written for it, as long
as it lies no deeper than what may be read, its members stand in order, and its numbers are words. All
values that were read are like that. -/

namespace JobQueue.Json

variable {α σ : Type}

/-! ### Parts with commas between them -/

theorem commaSeparated_cons (p : List Char) (ps : List (List Char)) :
    commaSeparated (p :: ps) = p ++ ps.flatMap (',' :: ·) := by
  induction ps generalizing p with
  | nil => simp [commaSeparated]
  | cons q ps ih =>
    rw [commaSeparated, ih, List.flatMap_cons, List.cons_append]
    exact nofun

/-- There are no more parts than characters. -/
theorem length_le_commaSeparated {ps : List (List Char)} (h : ∀ p ∈ ps, p ≠ []) :
    ps.length ≤ (commaSeparated ps).length := by
  have hrest : ∀ qs : List (List Char), qs.length ≤ (qs.flatMap (',' :: ·)).length := by
    intro qs
    induction qs with
    | nil => exact Nat.le_refl _
    | cons q qs ih =>
      simp only [List.flatMap_cons, List.length_cons, List.length_append]
      omega
  cases ps with
  | nil => exact Nat.le_refl _
  | cons p ps =>
    have hp : 0 < p.length := List.length_pos_iff.2 (h p (.head _))
    have hps := hrest ps
    rw [commaSeparated_cons, List.length_append, List.length_cons]
    omega

theorem skipBlank_cons {c : Char} (h : isBlank c = false) (cs : List Char) :
    skipBlank (c :: cs) = c :: cs :=
  List.dropWhile_cons_of_neg (by simp [h])

/-- A text with which a value can start. -/
def StartsValue (cs : List Char) : Prop :=
  ∃ c tail, cs = c :: tail ∧ isBlank c = false ∧ c ≠ ']'

theorem nextItem_first {cs : List Char} (h : StartsValue cs) (rest : List Char) :
    nextItem true (cs ++ rest) = .ok (some (cs ++ rest)) := by
  obtain ⟨c, tail, rfl, hblank, hclose⟩ := h
  rw [nextItem, List.cons_append, skipBlank_cons hblank]
  split
  next heq => cases heq
  next heq => exact absurd (List.cons.inj heq).1 hclose
  next c' rest' _ heq => rw [heq]; rfl

theorem nextItem_later {cs : List Char} (h : StartsValue cs) (rest : List Char) :
    nextItem false (',' :: (cs ++ rest)) = .ok (some (cs ++ rest)) := by
  obtain ⟨c, tail, rfl, hblank, hclose⟩ := h
  have hcomma : skipBlank (',' :: (c :: tail ++ rest)) = ',' :: (c :: tail ++ rest) := rfl
  rw [nextItem, hcomma]
  split
  next heq => cases heq
  next heq => exact absurd (List.cons.inj heq).1 (by decide)
  next heq =>
    obtain ⟨rfl, rfl⟩ := List.cons.inj heq
    rw [if_neg Bool.false_ne_true, if_pos rfl, List.cons_append, skipBlank_cons hblank]
    split
    next heq => cases heq
    next heq => exact absurd (List.cons.inj heq).1 hclose
    next => rfl

/-- After a part comes a comma, or the mark that ends all of them. -/
theorem mayFollow_later {c : Char} (h : c = ']' ∨ c = '}') (p : α → List Char) (as : List α)
    (rest : List Char) : MayFollow (as.flatMap (fun a => ',' :: p a) ++ c :: rest) := by
  cases as with
  | nil => exact mayFollow_cons (.inr h) rest
  | cons a as => exact mayFollow_cons (.inl rfl) _

/-- An item is read, and then the ones after it. -/
theorem readItems_cons {item : Reader α} {fuel : Nat} {first : Bool} {cs cs₁ cs₂ cs₃ : List Char} {a : α}
    {as : List α} (hnext : nextItem first cs = .ok (some cs₁)) (hitem : item cs₁ = .ok (a, cs₂))
    (hrest : readItems item fuel false cs₂ = .ok (as, cs₃)) :
    readItems item (fuel + 1) first cs = .ok (a :: as, cs₃) := by
  rw [readItems]
  refine (bind_eq_of_eq_ok hnext).trans ?_
  refine (bind_eq_of_eq_ok hitem).trans ?_
  exact bind_eq_of_eq_ok hrest

/-- The items after the first one are read up to the closing bracket. -/
theorem readItems_later {item : Reader α} {p : α → List Char} {as : List α} {fuel : Nat}
    (hstart : ∀ a ∈ as, StartsValue (p a))
    (hitem : ∀ a ∈ as, ∀ rest, MayFollow rest → item (p a ++ rest) = .ok (a, rest))
    (hfuel : as.length < fuel) (rest : List Char) :
    readItems item fuel false (as.flatMap (fun a => ',' :: p a) ++ ']' :: rest) = .ok (as, ']' :: rest) := by
  induction as generalizing fuel with
  | nil =>
    cases fuel with
    | zero => omega
    | succ fuel => rfl
  | cons a as ih =>
    cases fuel with
    | zero => omega
    | succ fuel =>
      obtain ⟨ha, has⟩ := List.forall_mem_cons.1 hstart
      have hread := hitem a (.head _) _ (mayFollow_later (.inl rfl) p as rest)
      have hrest := ih has (fun a ha => hitem a (.tail _ ha)) (Nat.lt_of_succ_lt_succ hfuel)
      rw [List.flatMap_cons, List.cons_append, List.cons_append, List.append_assoc]
      exact readItems_cons (nextItem_later ha _) hread hrest

/-- An array is read as the items that were written. -/
theorem readArray_written (item : Reader α) (p : α → List Char) {as : List α}
    (hstart : ∀ a ∈ as, StartsValue (p a))
    (hitem : ∀ a ∈ as, ∀ rest, MayFollow rest → item (p a ++ rest) = .ok (a, rest)) (rest : List Char) :
    readArray item (commaSeparated (as.map p) ++ ']' :: rest) = .ok (as, rest) := by
  have hparts : ∀ q ∈ as.map p, q ≠ [] := by
    intro q hq
    obtain ⟨a, ha, rfl⟩ := List.mem_map.1 hq
    obtain ⟨c, tail, heq, -⟩ := hstart a ha
    simp [heq]
  have hlength := length_le_commaSeparated hparts
  rw [List.length_map] at hlength
  suffices hitems : ∀ fuel, as.length < fuel →
      readItems item fuel true (commaSeparated (as.map p) ++ ']' :: rest) = .ok (as, ']' :: rest) by
    rw [readArray, hitems _ (by rw [List.length_append]; omega)]
    rfl
  intro fuel hfuel
  cases fuel with
  | zero => omega
  | succ fuel =>
    cases as with
    | nil => rfl
    | cons a as =>
      obtain ⟨ha, has⟩ := List.forall_mem_cons.1 hstart
      have hread := hitem a (.head _) _ (mayFollow_later (.inl rfl) p as rest)
      have hrest := readItems_later has (fun a ha => hitem a (.tail _ ha))
        (Nat.lt_of_succ_lt_succ hfuel) rest
      rw [List.map_cons, commaSeparated_cons, List.append_assoc, List.flatMap_map]
      exact readItems_cons (nextItem_first ha _) hread hrest

/-! ### Members -/

/-- A reader of members goes from one state to another on members that were written, given by their names
and the texts of their values. -/
def Takes (member : String → σ → Reader σ) : σ → List (String × List Char) → σ → Prop
  | s, [], s' => s = s'
  | s, (name, value) :: members, s' => ∃ s₁,
      (∀ rest, MayFollow rest → member name s (':' :: (value ++ rest)) = .ok (s₁, rest)) ∧
      Takes member s₁ members s'

/-- The text of a member that was written. -/
def writtenText (member : String × List Char) : List Char :=
  memberText member.1 member.2

variable {member : String → σ → Reader σ} {s s' : σ} {members : List (String × List Char)}

theorem writtenText_append (name : String) (value rest : List Char) :
    writtenText (name, value) ++ rest = '"' :: (quoteChars name.toList ++ '"' :: ':' :: (value ++ rest)) := by
  simp [writtenText, memberText, quoted]

/-- A member is read, and then the ones after it. -/
theorem readMembers_cons {fuel : Nat} {first : Bool} {name : String} {cs rest rest' : List Char}
    (hnext : nextName first cs = .ok (some (quoteChars name.toList ++ '"' :: rest)))
    (hmember : member name s rest = .ok (s', rest')) :
    readMembers member (fuel + 1) first s cs = readMembers member fuel false s' rest' := by
  rw [readMembers]
  refine (bind_eq_of_eq_ok hnext).trans ?_
  refine (bind_eq_of_eq_ok (readString_quoteChars name rest)).trans ?_
  exact bind_eq_of_eq_ok hmember

/-- The members after the first one are read up to the closing brace. -/
theorem readMembers_later {fuel : Nat} (h : Takes member s members s') (hfuel : members.length < fuel)
    (rest : List Char) :
    readMembers member fuel false s (members.flatMap (fun m => ',' :: writtenText m) ++ '}' :: rest) =
      .ok (s', '}' :: rest) := by
  induction members generalizing fuel s with
  | nil =>
    cases fuel with
    | zero => omega
    | succ fuel =>
      obtain rfl : s = s' := h
      rfl
  | cons m members ih =>
    cases fuel with
    | zero => omega
    | succ fuel =>
      obtain ⟨name, value⟩ := m
      obtain ⟨s₁, hmember, hmembers⟩ := h
      have hread := hmember _ (mayFollow_later (.inr rfl) writtenText members rest)
      have hrest := ih hmembers (Nat.lt_of_succ_lt_succ hfuel)
      rw [List.flatMap_cons, List.cons_append, List.cons_append, List.append_assoc, writtenText_append]
      exact (readMembers_cons rfl hread).trans hrest

theorem length_le_written (members : List (String × List Char)) :
    members.length ≤ (commaSeparated (members.map writtenText)).length := by
  have hparts : ∀ q ∈ members.map writtenText, q ≠ [] := by
    intro q hq
    obtain ⟨m, -, rfl⟩ := List.mem_map.1 hq
    simp [writtenText, memberText, quoted]
  simpa using length_le_commaSeparated hparts

/-- The members of an object are read as they were written. -/
theorem readMembers_written {fuel : Nat} {rest : List Char} (h : Takes member s members s')
    (hfuel : members.length < fuel) :
    readMembers member fuel true s (commaSeparated (members.map writtenText) ++ '}' :: rest) =
      .ok (s', '}' :: rest) := by
  cases fuel with
  | zero => omega
  | succ fuel =>
    cases members with
    | nil =>
      obtain rfl : s = s' := h
      rfl
    | cons m members =>
      obtain ⟨name, value⟩ := m
      obtain ⟨s₁, hmember, hmembers⟩ := h
      have hread := hmember _ (mayFollow_later (.inr rfl) writtenText members rest)
      have hrest := readMembers_later hmembers (Nat.lt_of_succ_lt_succ hfuel) rest
      rw [List.map_cons, commaSeparated_cons, List.append_assoc, writtenText_append, List.flatMap_map]
      exact (readMembers_cons rfl hread).trans hrest

/-- An object is read as the members that were written. -/
theorem readObject_written (h : Takes member s members s') (rest : List Char) :
    readObject member s (commaSeparated (members.map writtenText) ++ '}' :: rest) = .ok (s', rest) := by
  have hlength := length_le_written members
  rw [readObject, readMembers_written h (by rw [List.length_append]; omega)]
  rfl

/-! ### Values that can be read -/

/-- A whole number that 64 bits can hold, signed or unsigned. -/
def Number.InRange : Number → Prop
  | whole i => Word.signedMin64 ≤ i ∧ i ≤ Word.max64
  | float _ => True

/-- A value that can be read where so many levels may still open: it lies no deeper, its numbers are words,
and the members of its objects stand in increasing order. -/
inductive Fits : Nat → Json → Prop where
  | null {depth} : Fits depth .null
  | bool {depth} (b : Bool) : Fits depth (.bool b)
  | number {depth} {n : Number} (h : n.InRange) : Fits depth (.number n)
  | string {depth} (s : String) : Fits depth (.string s)
  | array {depth} {items : List Json} (h : ∀ item ∈ items, Fits depth item) :
      Fits (depth + 1) (.array items)
  | object {depth} {members : List (String × Json)} (hnames : (members.map Prod.fst).Pairwise (· < ·))
      (h : ∀ m ∈ members, Fits depth m.2) : Fits (depth + 1) (.object members)

/-- No number of a value is a floating-point number. -/
inductive FloatFree : Json → Prop where
  | null : FloatFree .null
  | bool (b : Bool) : FloatFree (.bool b)
  | whole (i : Int) : FloatFree (.number (.whole i))
  | string (s : String) : FloatFree (.string s)
  | array {items : List Json} (h : ∀ item ∈ items, FloatFree item) : FloatFree (.array items)
  | object {members : List (String × Json)} (h : ∀ m ∈ members, FloatFree m.2) : FloatFree (.object members)

/-! Numbers that are read. -/

theorem takeWord_le {n : Nat} (hn : n ≤ Word.max64) (ds : List Char) : (takeWord n ds).1 ≤ Word.max64 := by
  induction ds generalizing n with
  | nil => exact hn
  | cons d ds ih =>
    rw [takeWord]
    split
    next hd => exact ih hd
    next => exact hn

theorem floatOf_inRange {negative : Bool} {word : Nat} {exponent : Int} {rest cs : List Char}
    {number : Number} (h : floatOf negative word exponent rest = .ok (number, cs)) : number.InRange := by
  obtain ⟨x, rfl⟩ := floatOf_ok h
  trivial

theorem wholeOf_inRange {negative : Bool} {word : Nat} {rest cs : List Char} {number : Number}
    (hword : word ≤ Word.max64) (h : wholeOf negative word rest = .ok (number, cs)) : number.InRange := by
  unfold wholeOf at h
  split at h
  · cases h
    exact ⟨by simp only [Word.signedMin64]; omega, by omega⟩
  · split at h
    next hrange =>
      cases h
      simp only [Bool.and_eq_true, decide_eq_true_eq] at hrange
      refine ⟨?_, ?_⟩ <;> simp only [Word.signedMin64, Word.signedMax64] at hrange ⊢ <;> omega
    next => exact floatOf_inRange h

theorem readExponent_inRange {negative : Bool} {word : Nat} {exponent : Int} {cs rest : List Char}
    {number : Number} (h : readExponent negative word exponent cs = .ok (number, rest)) :
    number.InRange := by
  unfold readExponent at h
  dsimp only at h
  -- The sign of the exponent plays no part.
  split at h
  all_goals
    split at h
    · cases h
    · split at h
      · exact floatOf_inRange h
      · split at h
        · cases h
        · cases h
          trivial

theorem readScale_inRange {negative : Bool} {word : Nat} {exponent : Int} {cs rest : List Char}
    {number : Number} (h : readScale negative word exponent cs = .ok (number, rest)) : number.InRange := by
  unfold readScale at h
  split at h
  · exact readExponent_inRange h
  · exact readExponent_inRange h
  · exact floatOf_inRange h

theorem readMagnitude_inRange {negative : Bool} {cs rest : List Char} {number : Number}
    (h : readMagnitude negative cs = .ok (number, rest)) : number.InRange := by
  unfold readMagnitude at h
  dsimp only at h
  split at h
  · cases h
  · cases h
  · have hword := takeWord_le (n := 0) (by decide) (cs.takeWhile Text.isDigit)
    split at h
    · unfold readFraction at h
      dsimp only at h
      split at h
      · cases h
      · exact readScale_inRange h
    · split at h
      · exact wholeOf_inRange hword h
      · exact readScale_inRange h

theorem readNumber_inRange {cs rest : List Char} {number : Number} (h : readNumber cs = .ok (number, rest)) :
    number.InRange := by
  unfold readNumber at h
  split at h <;> exact readMagnitude_inRange h

/-! Members in order. -/

theorem mem_insertMember {name : String} {value : Json} {members : List (String × Json)} {m : String × Json}
    (h : m ∈ insertMember name value members) : m = (name, value) ∨ m ∈ members := by
  induction members with
  | nil => exact .inl (List.mem_singleton.1 h)
  | cons m' members ih =>
    unfold insertMember at h
    split at h
    · obtain rfl | h := List.mem_cons.1 h
      · exact .inl rfl
      · exact .inr (.tail _ h)
    · split at h
      · exact List.mem_cons.1 h
      · obtain rfl | h := List.mem_cons.1 h
        · exact .inr (.head _)
        · exact (ih h).imp id (.tail _)

theorem pairwise_insertMember {name : String} {value : Json} {members : List (String × Json)}
    (h : (members.map Prod.fst).Pairwise (· < ·)) :
    ((insertMember name value members).map Prod.fst).Pairwise (· < ·) := by
  induction members with
  | nil => exact List.pairwise_singleton _ _
  | cons m members ih =>
    obtain ⟨n, v⟩ := m
    obtain ⟨hn, hmembers⟩ := List.pairwise_cons.1 h
    unfold insertMember
    split
    next heq => exact heq ▸ h
    next hne =>
      split
      next hlt =>
        refine List.pairwise_cons.2 ⟨fun n' hn' => ?_, h⟩
        obtain rfl | hn' := List.mem_cons.1 hn'
        · exact hlt
        · exact String.lt_trans hlt (hn n' hn')
      next hnlt =>
        refine List.pairwise_cons.2 ⟨fun n' hn' => ?_, ih hmembers⟩
        obtain ⟨m, hm, rfl⟩ := List.mem_map.1 hn'
        obtain rfl | hm := mem_insertMember hm
        · obtain hlt | heq | hgt := Std.lt_trichotomy name n
          · exact absurd hlt hnlt
          · exact absurd heq hne
          · exact hgt
        · exact hn _ (List.mem_map_of_mem hm)

/-- A member that is put into an object is found there, and the others are as before. -/
theorem lookup_insertMember (key name : String) (value : Json) (members : List (String × Json)) :
    (insertMember name value members).lookup key =
      if key = name then some value else members.lookup key := by
  have hcons : ∀ (n : String) (v : Json) (rest : List (String × Json)),
      List.lookup key ((n, v) :: rest) = if key = n then some v else rest.lookup key := by
    intro n v rest
    rw [List.lookup_cons]
    by_cases h : key = n
    · simp [h]
    · rw [beq_eq_false_iff_ne.2 h, if_neg h]
  induction members with
  | nil => simp [insertMember, hcons]
  | cons m members ih =>
    simp only [insertMember]
    split
    next h => simp only [hcons, h]; split <;> rfl
    next h =>
      split
      · exact hcons name value (m :: members)
      · simp only [hcons, ih]
        by_cases hname : key = name
        · simp [hname, h]
        · simp [hname]

/-- A member whose name comes after all others is put at the end. -/
theorem insertMember_last {name : String} {value : Json} {members : List (String × Json)}
    (h : ∀ m ∈ members, m.1 < name) : insertMember name value members = members ++ [(name, value)] := by
  induction members with
  | nil => rfl
  | cons m members ih =>
    obtain ⟨hm, hmembers⟩ := List.forall_mem_cons.1 h
    have hne : name ≠ m.1 := fun heq => String.lt_irrefl _ (heq ▸ hm)
    rw [insertMember, if_neg hne, if_neg (String.lt_asymm hm), ih hmembers]
    rfl

/-! Values that are read. -/

/-- What is true of every item that can be read is true of all that were. -/
theorem forall_of_readItems {item : Reader α} {P : α → Prop}
    (hitem : ∀ cs a cs', item cs = .ok (a, cs') → P a) {fuel : Nat} {first : Bool} {as : List α}
    {cs cs' : List Char} (h : readItems item fuel first cs = .ok (as, cs')) : ∀ a ∈ as, P a := by
  induction fuel generalizing first as cs cs' with
  | zero => cases h
  | succ fuel ih =>
    obtain ⟨next?, -, h⟩ := exists_of_bind_eq_ok h
    cases next? with
    | none =>
      cases h
      exact nofun
    | some cs =>
      obtain ⟨⟨a, cs⟩, ha, h⟩ := exists_of_bind_eq_ok h
      obtain ⟨⟨as, cs⟩, has, h⟩ := exists_of_bind_eq_ok h
      cases h
      exact List.forall_mem_cons.2 ⟨hitem _ _ _ ha, ih has⟩

/-- What every member leaves as it is, all of the members do. -/
theorem readMembers_induction {member : String → σ → Reader σ} {P : σ → Prop}
    (hmember : ∀ name s cs s' cs', P s → member name s cs = .ok (s', cs') → P s')
    (fuel : Nat) (first : Bool) {s s' : σ} {cs cs' : List Char} (hs : P s)
    (h : readMembers member fuel first s cs = .ok (s', cs')) : P s' := by
  induction fuel generalizing first s cs with
  | zero => cases h
  | succ fuel ih =>
    obtain ⟨name?, -, h⟩ := exists_of_bind_eq_ok h
    cases name? with
    | none => cases h; exact hs
    | some cs =>
      obtain ⟨⟨name, cs⟩, -, h⟩ := exists_of_bind_eq_ok h
      obtain ⟨⟨s, cs⟩, hread, h⟩ := exists_of_bind_eq_ok h
      exact ih false (hmember _ _ _ _ _ hs hread) h

/-- Whatever is read can be read, given that this is so one level deeper. -/
theorem fits_of_readValue {depth : Nat} {cs cs' : List Char} {j : Json}
    (hdeeper : ∀ d, depth = d + 1 → ∀ cs j cs', readValue d cs = .ok (j, cs') → Fits d j)
    (h : readValue depth cs = .ok (j, cs')) : Fits depth j := by
  unfold readValue at h
  split at h
  · cases h
  · obtain ⟨_, -, h⟩ := exists_of_bind_eq_ok h
    cases h
    exact .null
  · obtain ⟨_, -, h⟩ := exists_of_bind_eq_ok h
    cases h
    exact .bool true
  · obtain ⟨_, -, h⟩ := exists_of_bind_eq_ok h
    cases h
    exact .bool false
  · obtain ⟨⟨s, _⟩, -, h⟩ := exists_of_bind_eq_ok h
    cases h
    exact .string s
  · split at h
    · cases h
    next d =>
      obtain ⟨⟨items, _⟩, hitems, h⟩ := exists_of_bind_eq_ok h
      cases h
      obtain ⟨⟨items', _⟩, hread, hclose⟩ := exists_of_bind_eq_ok hitems
      obtain ⟨_, -, hclose⟩ := exists_of_bind_eq_ok hclose
      cases hclose
      exact .array (forall_of_readItems (hdeeper d rfl) hread)
  · split at h
    · cases h
    next d =>
      obtain ⟨⟨members, _⟩, hmembers, h⟩ := exists_of_bind_eq_ok h
      cases h
      obtain ⟨⟨members', _⟩, hread, hclose⟩ := exists_of_bind_eq_ok hmembers
      obtain ⟨_, -, hclose⟩ := exists_of_bind_eq_ok hclose
      cases hclose
      have hordered := readMembers_induction
        (P := fun members => (members.map Prod.fst).Pairwise (· < ·) ∧ ∀ m ∈ members, Fits d m.2)
        (fun name acc cs acc' cs' hacc hmember => by
          obtain ⟨_, -, hmember⟩ := exists_of_bind_eq_ok hmember
          obtain ⟨⟨value, _⟩, hvalue, hmember⟩ := exists_of_bind_eq_ok hmember
          cases hmember
          refine ⟨pairwise_insertMember hacc.1, fun m hm => ?_⟩
          obtain rfl | hm := mem_insertMember hm
          · exact hdeeper d rfl _ _ _ hvalue
          · exact hacc.2 m hm) _ _ ⟨.nil, nofun⟩ hread
      exact .object hordered.1 hordered.2
  · split at h
    · obtain ⟨⟨n, _⟩, hn, h⟩ := exists_of_bind_eq_ok h
      cases h
      exact .number (readNumber_inRange hn)
    · cases h

theorem readValue_fits {depth : Nat} {cs cs' : List Char} {j : Json}
    (h : readValue depth cs = .ok (j, cs')) : Fits depth j := by
  induction depth generalizing cs cs' j with
  | zero => exact fits_of_readValue nofun h
  | succ depth ih =>
    refine fits_of_readValue (fun d hd cs j cs' h => ?_) h
    obtain rfl := Nat.succ.inj hd
    exact ih h

/-! ### Values that are written -/

theorem itemChars_eq (items : List Json) : itemChars items = items.map chars := by
  induction items with
  | nil => rfl
  | cons item items ih => rw [itemChars, ih, List.map_cons]

theorem memberChars_eq (members : List (String × Json)) :
    memberChars members = (members.map fun m => (m.1, m.2.chars)).map writtenText := by
  induction members with
  | nil => rfl
  | cons m members ih => rw [memberChars, ih, List.map_cons, List.map_cons, writtenText]

/-- The digits of a whole number start with a digit or a sign. -/
theorem exists_intDigits (i : Int) :
    ∃ c cs, Text.intDigits i = c :: cs ∧ (c = '-' ∨ Text.isDigit c = true) := by
  unfold Text.intDigits
  split
  · exact ⟨'-', _, rfl, .inl rfl⟩
  · obtain ⟨d, ds, hdigits, hd⟩ := Text.exists_natDigits i.natAbs
    exact ⟨d, ds, hdigits, .inr hd⟩

/-- The start of a number differs from any other character. -/
theorem number_ne {c d : Char} (h : c = '-' ∨ Text.isDigit c = true)
    (hd : (d != '-' && !Text.isDigit d) = true) : c ≠ d := by
  rintro rfl
  simp only [Bool.and_eq_true, bne_iff_ne, Bool.not_eq_true'] at hd
  obtain rfl | h := h
  · exact hd.1 rfl
  · rw [hd.2] at h
    cases h

theorem number_not_isBlank {c : Char} (h : c = '-' ∨ Text.isDigit c = true) : isBlank c = false := by
  simp [isBlank, number_ne h (d := ' ') rfl, number_ne h (d := '\n') rfl, number_ne h (d := '\t') rfl,
    number_ne h (d := '\r') rfl]

/-- What starts with a digit or a sign is read as a number. -/
theorem readValue_number {depth : Nat} {c : Char} (h : c = '-' ∨ Text.isDigit c = true) (cs : List Char) :
    readValue depth (c :: cs) = (do
      let (n, rest) ← readNumber (c :: cs)
      .ok (.number n, rest)) := by
  have hnumber : (c = '-' || Text.isDigit c) = true := by simpa using h
  unfold readValue
  rw [skipBlank_cons (number_not_isBlank h)]
  split
  next heq => cases heq
  next heq => exact absurd (List.cons.inj heq).1 (number_ne h rfl)
  next heq => exact absurd (List.cons.inj heq).1 (number_ne h rfl)
  next heq => exact absurd (List.cons.inj heq).1 (number_ne h rfl)
  next heq => exact absurd (List.cons.inj heq).1 (number_ne h rfl)
  next heq => exact absurd (List.cons.inj heq).1 (number_ne h rfl)
  next heq => exact absurd (List.cons.inj heq).1 (number_ne h rfl)
  next heq =>
    obtain ⟨rfl, rfl⟩ := List.cons.inj heq
    rw [if_pos hnumber]

theorem startsValue_chars {j : Json} (h : FloatFree j) : StartsValue j.chars := by
  cases h with
  | null => exact ⟨'n', _, rfl, rfl, by decide⟩
  | bool b => cases b <;> exact ⟨_, _, rfl, rfl, by decide⟩
  | whole i =>
    obtain ⟨c, cs, heq, hc⟩ := exists_intDigits i
    exact ⟨c, cs, heq, number_not_isBlank hc, number_ne hc rfl⟩
  | string s => exact ⟨'"', _, rfl, rfl, by decide⟩
  | array => exact ⟨'[', _, rfl, rfl, by decide⟩
  | object => exact ⟨'{', _, rfl, rfl, by decide⟩

/-- Members are read into an object in whatever order they stand. -/
theorem takes_inserted {depth : Nat} (acc : List (String × Json)) {members : List (String × Json)}
    (hvalues : ∀ m ∈ members, ∀ rest, MayFollow rest → readValue depth (m.2.chars ++ rest) = .ok (m.2, rest)) :
    Takes (fun name acc cs => do
        let (value, cs) ← readValue depth (← skipColon cs)
        .ok (insertMember name value acc, cs)) acc
      (members.map fun m => (m.1, m.2.chars))
      (members.foldl (fun acc m => insertMember m.1 m.2 acc) acc) := by
  induction members generalizing acc with
  | nil => rfl
  | cons m members ih =>
    obtain ⟨hm, hmembers⟩ := List.forall_mem_cons.1 hvalues
    refine ⟨insertMember m.1 m.2 acc, fun rest hrest => ?_, ih _ hmembers⟩
    have hcolon : skipColon (':' :: (m.2.chars ++ rest)) = .ok (m.2.chars ++ rest) := rfl
    exact (bind_eq_of_eq_ok hcolon).trans (bind_eq_of_eq_ok (hm rest hrest))

/-- Members whose names increase stay in their order. -/
theorem foldl_insertMember (acc : List (String × Json)) {members : List (String × Json)}
    (hnames : ((acc ++ members).map Prod.fst).Pairwise (· < ·)) :
    members.foldl (fun acc m => insertMember m.1 m.2 acc) acc = acc ++ members := by
  induction members generalizing acc with
  | nil => simp
  | cons m members ih =>
    have hlast : ∀ m' ∈ acc, m'.1 < m.1 := by
      rw [List.map_append, List.map_cons] at hnames
      exact fun m' hm' => (List.pairwise_append.1 hnames).2.2 _ (List.mem_map_of_mem hm') _ (.head _)
    rw [List.append_cons] at hnames ⊢
    rw [List.foldl_cons, insertMember_last hlast, ih _ hnames]

/-- The text of an object is read as the members that were written, the last of each name. -/
theorem readValue_objectText {depth : Nat} {members : List (String × Json)}
    (hvalues : ∀ m ∈ members, ∀ rest, MayFollow rest → readValue depth (m.2.chars ++ rest) = .ok (m.2, rest))
    (rest : List Char) :
    readValue (depth + 1) (objectText (memberChars members) ++ rest) = .ok (ofMembers members, rest) := by
  have hchars : objectText (memberChars members) ++ rest = '{' ::
      (commaSeparated ((members.map fun m => (m.1, m.2.chars)).map writtenText) ++ '}' :: rest) := by
    simp [objectText, memberChars_eq]
  rw [hchars]
  unfold readValue
  exact bind_eq_of_eq_ok (readObject_written (takes_inserted [] hvalues) rest)

/-- A value that can be read and has no floating-point numbers is read back from its text. -/
theorem readValue_chars {depth : Nat} {j : Json} (hfits : Fits depth j) (hfree : FloatFree j)
    {rest : List Char} (hrest : MayFollow rest) : readValue depth (j.chars ++ rest) = .ok (j, rest) := by
  induction hfits generalizing rest with
  | null =>
    unfold readValue
    rfl
  | bool b =>
    unfold readValue
    cases b <;> rfl
  | @number depth n hn =>
    cases hfree with
    | whole i =>
      obtain ⟨c, cs, heq, hc⟩ := exists_intDigits i
      have hread := readNumber_intDigits hn.1 hn.2 hrest
      change readValue depth (Text.intDigits i ++ rest) = _
      rw [heq, List.cons_append] at hread ⊢
      rw [readValue_number hc, hread]
      rfl
  | string s =>
    have hchars : (Json.string s).chars ++ rest = '"' :: (quoteChars s.toList ++ '"' :: rest) := by
      simp [chars, quoted]
    rw [hchars]
    unfold readValue
    exact bind_eq_of_eq_ok (readString_quoteChars s rest)
  | @array depth items _ ih =>
    cases hfree with
    | array hitems =>
      have hread := readArray_written (readValue depth) chars
        (fun item hitem => startsValue_chars (hitems item hitem))
        (fun item hitem rest hrest => ih item hitem (hitems item hitem) hrest) rest
      have hchars : (Json.array items).chars ++ rest =
          '[' :: (commaSeparated (items.map chars) ++ ']' :: rest) := by
        simp [chars, arrayText, itemChars_eq]
      rw [hchars]
      unfold readValue
      exact bind_eq_of_eq_ok hread
  | @object depth members hnames _ ih =>
    cases hfree with
    | object hmembers =>
      have hread := readValue_objectText (fun m hm rest hrest => ih m hm (hmembers m hm) hrest) rest
      rw [ofMembers, foldl_insertMember [] hnames] at hread
      exact hread

end JobQueue.Json
