import JobQueue.Json.Codec
import JobQueue.Proofs.Text.Numeral

/-! A word that is read from the digits of a number is that number. -/

namespace JobQueue.Json

/-- What comes of one reader after another. -/
theorem exists_of_bind_eq_ok {ε α β : Type} {x : Except ε α} {f : α → Except ε β} {b : β}
    (h : x >>= f = .ok b) : ∃ a, x = .ok a ∧ f a = .ok b := by
  cases x with
  | ok a => exact ⟨a, rfl, h⟩
  | error e => cases h

/-- One reader after another that has come to its end. -/
theorem bind_eq_of_eq_ok {ε α β : Type} {x : Except ε α} {f : α → Except ε β} {a : α} (h : x = .ok a) :
    x >>= f = f a := by
  rw [h]
  rfl

/-- A run of digits that fits a word has the value of the word. -/
theorem takeWord_nil {n word : Nat} {ds : List Char} (h : takeWord n ds = (word, [])) :
    word = Text.digitsValue n ds := by
  induction ds generalizing n with
  | nil =>
    cases h
    rfl
  | cons d ds ih =>
    unfold takeWord at h
    dsimp only at h
    split at h
    · exact ih h
    · cases h

/-- A run of digits whose value fits a word is taken as a whole. -/
theorem takeWord_eq (n : Nat) (ds : List Char) (h : Text.digitsValue n ds ≤ Word.max64) :
    takeWord n ds = (Text.digitsValue n ds, []) := by
  induction ds generalizing n with
  | nil => rfl
  | cons d ds ih =>
    have hrest : Text.digitsValue (10 * n + Text.digitValue d) ds ≤ Word.max64 := h
    have hd : 10 * n + Text.digitValue d ≤ Word.max64 := Nat.le_trans (Text.le_digitsValue ..) hrest
    rw [takeWord, if_pos hd]
    exact ih _ hrest

/-- A run of digits ends where something else follows. -/
theorem span_digits {ds rest : List Char} (hds : ∀ d ∈ ds, Text.isDigit d = true)
    (hrest : ∀ c ∈ rest.head?, Text.isDigit c = false) :
    (ds ++ rest).takeWhile Text.isDigit = ds ∧ (ds ++ rest).dropWhile Text.isDigit = rest := by
  rw [List.takeWhile_append_of_pos hds, List.dropWhile_append_of_pos hds]
  cases rest with
  | nil => simp
  | cons c rest => simp [hrest c rfl]

theorem span_natDigits (n : Nat) (rest : List Char) (hrest : ∀ c ∈ rest.head?, Text.isDigit c = false) :
    (Text.natDigits n ++ rest).takeWhile Text.isDigit = Text.natDigits n ∧
      (Text.natDigits n ++ rest).dropWhile Text.isDigit = rest :=
  span_digits (fun _ => Text.isDigit_of_mem_natDigits) hrest

/-- Digits that do not fit a word make a floating-point number. -/
theorem floatOf_ok {negative : Bool} {word : Nat} {exponent : Int} {rest cs : List Char} {number : Number}
    (h : floatOf negative word exponent rest = .ok (number, cs)) : ∃ x, number = .float x := by
  unfold floatOf at h
  split at h
  · cases h
  · cases h
    exact ⟨_, rfl⟩

/-- A whole number before a comma is the one that was written. -/
theorem readMagnitude_whole {n : Nat} {value : Int} {rest cs : List Char}
    (h : readMagnitude false (Text.natDigits n ++ ',' :: rest) = .ok (.whole value, cs)) : value = n := by
  obtain ⟨htake, hdrop⟩ := span_natDigits n (',' :: rest) (by rintro c ⟨⟩; rfl)
  have hvalue := Text.digitsValue_natDigits n
  unfold readMagnitude at h
  simp only [htake, hdrop] at h
  split at h
  · cases h
  · cases h
  · cases hword : takeWord 0 (Text.natDigits n) with
    | mk word beyond =>
      simp only [hword] at h
      split at h
      next heq => exact absurd (List.cons.inj heq).1 (by decide)
      next =>
        split at h
        next hwhole =>
          obtain rfl : beyond = [] := List.isEmpty_iff.1 (Bool.and_eq_true_iff.1 hwhole).1
          cases h
          rw [takeWord_nil hword, hvalue]
        next =>
          have hfloat : floatOf false word beyond.length (',' :: rest) = .ok (.whole value, cs) := by
            unfold readScale at h
            split at h
            next heq => exact absurd (List.cons.inj heq).1 (by decide)
            next heq => exact absurd (List.cons.inj heq).1 (by decide)
            next => exact h
          obtain ⟨x, hx⟩ := floatOf_ok hfloat
          cases hx

/-! ### Numbers that are written -/

/-- A text that may follow a value: nothing, or a mark that ends the value. -/
def MayFollow (rest : List Char) : Prop :=
  ∀ c ∈ rest.head?, c = ',' ∨ c = ']' ∨ c = '}'

theorem mayFollow_nil : MayFollow [] := nofun

theorem mayFollow_cons {c : Char} (h : c = ',' ∨ c = ']' ∨ c = '}') (rest : List Char) :
    MayFollow (c :: rest) := by
  rintro _ ⟨⟩
  exact h

theorem MayFollow.not_isDigit {rest : List Char} (h : MayFollow rest) :
    ∀ c ∈ rest.head?, Text.isDigit c = false := by
  intro c hc
  obtain rfl | rfl | rfl := h c hc <;> rfl

/-- The digits of a word are read as that word, after whatever sign. -/
theorem readMagnitude_natDigits {negative : Bool} {n : Nat} {rest : List Char} (hn : n ≤ Word.max64)
    (hrest : MayFollow rest) : readMagnitude negative (Text.natDigits n ++ rest) = wholeOf negative n rest := by
  obtain ⟨htake, hdrop⟩ := span_natDigits n rest hrest.not_isDigit
  have hvalue := Text.digitsValue_natDigits n
  have hword : takeWord 0 (Text.natDigits n) = (n, []) := by
    have hword := takeWord_eq 0 (Text.natDigits n) (by rwa [hvalue])
    rwa [hvalue] at hword
  have hpoint : ∀ cs, rest ≠ '.' :: cs := by
    rintro cs rfl
    exact absurd (hrest '.' rfl) (by decide)
  have hexponent : (rest.head?.any fun c => c == 'e' || c == 'E') = false := by
    cases rest with
    | nil => rfl
    | cons c cs => obtain rfl | rfl | rfl := hrest c rfl <;> rfl
  unfold readMagnitude
  simp only [htake, hdrop]
  split
  next hnil => exact absurd hnil Nat.toDigits_ne_nil
  next d ds hzero => exact absurd hzero (Text.natDigits_ne_zero_cons n d ds)
  next =>
    simp only [hword, hexponent, List.isEmpty_nil, Bool.not_false, Bool.and_self, if_true]

/-- Digits are not taken for a sign. -/
theorem readNumber_natDigits (n : Nat) (rest : List Char) :
    readNumber (Text.natDigits n ++ rest) = readMagnitude false (Text.natDigits n ++ rest) := by
  unfold readNumber
  split
  next cs heq =>
    exact absurd heq (Text.digits_append_ne_cons (fun _ => Text.isDigit_of_mem_natDigits)
      Nat.toDigits_ne_nil rfl rest cs)
  next => rfl

/-- A whole number that 64 bits can hold, signed or unsigned, is read from its digits. -/
theorem readNumber_intDigits {i : Int} {rest : List Char} (hleast : Word.signedMin64 ≤ i)
    (hmost : i ≤ Word.max64) (hrest : MayFollow rest) :
    readNumber (Text.intDigits i ++ rest) = .ok (.whole i, rest) := by
  have hn : i.natAbs ≤ Word.max64 := by
    simp only [Word.signedMin64, Word.max64] at hleast hmost ⊢
    omega
  unfold Text.intDigits
  by_cases hi : i < 0
  · rw [if_pos hi, List.cons_append]
    change readMagnitude true (Text.natDigits i.natAbs ++ rest) = _
    have hsigned : (0 < i.natAbs && i.natAbs ≤ Word.signedMax64 + 1) = true := by
      simp only [Word.signedMin64, Word.signedMax64, Bool.and_eq_true, decide_eq_true_eq] at hleast ⊢
      omega
    have habs : -(i.natAbs : Int) = i := by omega
    rw [readMagnitude_natDigits hn hrest, wholeOf, hsigned, habs]
    rfl
  · rw [if_neg hi]
    have habs : (i.natAbs : Int) = i := by omega
    rw [readNumber_natDigits, readMagnitude_natDigits hn hrest, wholeOf, habs]
    rfl

/-- A word before a comma is the one that was written. -/
theorem Codec.word_read_natDigits {limit n m depth : Nat} {name : String} {rest cs : List Char}
    (h : (Codec.word limit name).read depth (Text.natDigits n ++ ',' :: rest) = .ok (m, cs)) : m = n := by
  obtain ⟨d, ds, hdigits, hd⟩ := Text.exists_natDigits n
  have hblank : skipBlank (Text.natDigits n ++ ',' :: rest) = d :: (ds ++ ',' :: rest) := by
    rw [hdigits, List.cons_append, skipBlank, List.dropWhile_cons_of_neg]
    intro hblank
    simp only [isBlank, Bool.or_eq_true, beq_iff_eq] at hblank
    rcases hblank with ((rfl | rfl) | rfl) | rfl <;> cases hd
  simp only [Codec.word, hblank, hd, Bool.or_true, if_true] at h
  obtain ⟨⟨number, cs'⟩, hnumber, h⟩ := exists_of_bind_eq_ok h
  rw [← List.cons_append, ← hdigits, readNumber_natDigits] at hnumber
  cases number with
  | float x => cases h
  | whole value =>
    obtain rfl := readMagnitude_whole hnumber
    dsimp only at h
    split at h
    · cases h
      exact Int.toNat_natCast n
    · cases h

end JobQueue.Json
