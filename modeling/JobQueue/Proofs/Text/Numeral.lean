import JobQueue.Store.Basic

/-! Numbers are read back from their digits, so that a bound of a range is the score it was written
for. -/

namespace JobQueue

namespace Text

/-- Further digits do not make a value less. -/
theorem le_digitsValue (n : Nat) (cs : List Char) : n ≤ digitsValue n cs := by
  induction cs generalizing n with
  | nil => exact Nat.le_refl n
  | cons c cs ih =>
    have hrest : 10 * n + digitValue c ≤ digitsValue n (c :: cs) := ih (10 * n + digitValue c)
    omega

/-- Digits are read as their value if that is within the limit. -/
theorem readDigits_eq {limit n : Nat} {fault : NumeralFault} {cs : List Char}
    (hdigits : ∀ c ∈ cs, isDigit c = true) (hlimit : digitsValue n cs ≤ limit) :
    readDigits limit fault n cs = .ok (digitsValue n cs) := by
  induction cs generalizing n with
  | nil => rfl
  | cons c cs ih =>
    obtain ⟨hc, hcs⟩ := List.forall_mem_cons.1 hdigits
    have hrest : digitsValue (10 * n + digitValue c) cs ≤ limit := hlimit
    have hc' : 10 * n + digitValue c ≤ limit := Nat.le_trans (le_digitsValue ..) hrest
    rw [readDigits, if_pos hc]
    simp only [if_pos hc']
    exact ih hcs hrest

theorem isDigit_of_mem_natDigits {n : Nat} {c : Char} (h : c ∈ natDigits n) : isDigit c = true := by
  have hdigit := Nat.isDigit_of_mem_toDigits (by decide) (by decide) h
  simpa [isDigit, Char.isDigit, Char.le_def] using hdigit

theorem exists_natDigits (n : Nat) : ∃ d ds, natDigits n = d :: ds ∧ isDigit d = true := by
  obtain ⟨d, ds, hdigits⟩ := List.exists_cons_of_ne_nil (Nat.toDigits_ne_nil (n := n) (b := 10))
  refine ⟨d, ds, hdigits, isDigit_of_mem_natDigits (n := n) ?_⟩
  rw [natDigits, hdigits]
  exact .head ds

theorem digitsValue_natDigits (n : Nat) : digitsValue 0 (natDigits n) = n :=
  Nat.ofDigitChars_ten_toDigits

/-- Numbers are written without leading zeros. -/
theorem natDigits_ne_zero_cons (n : Nat) (d : Char) (ds : List Char) : natDigits n ≠ '0' :: d :: ds := by
  induction n using Nat.strongRecOn generalizing d ds with
  | ind n ih =>
    intro h
    by_cases hn : n < 10
    · have hone : natDigits n = [n.digitChar] := Nat.toDigits_of_lt_base hn
      exact absurd (hone.symm.trans h) (by simp)
    · have hsplit : natDigits n = natDigits (n / 10) ++ [(n % 10).digitChar] :=
        Nat.toDigits_of_base_le (by decide) (by omega)
      have hvalue := digitsValue_natDigits (n / 10)
      rw [hsplit] at h
      match hfirst : natDigits (n / 10) with
      | [] => exact Nat.toDigits_ne_nil hfirst
      | [c] =>
        rw [hfirst] at h hvalue
        obtain rfl : c = '0' := (List.cons.inj h).1
        have hzero : digitsValue 0 ['0'] = 0 := rfl
        omega
      | c :: c' :: cs =>
        rw [hfirst] at h
        obtain rfl : c = '0' := (List.cons.inj h).1
        exact ih (n / 10) (by omega) c' cs hfirst

/-- What starts with digits does not start with another character. -/
theorem digits_append_ne_cons {ds : List Char} {c : Char} (hds : ∀ d ∈ ds, isDigit d = true) (hne : ds ≠ [])
    (hc : isDigit c = false) (rest cs : List Char) : ds ++ rest ≠ c :: cs := by
  obtain ⟨d, tail, rfl⟩ := List.exists_cons_of_ne_nil hne
  intro heq
  obtain rfl : d = c := (List.cons.inj heq).1
  have hd : isDigit d = true := hds d (.head tail)
  rw [hc] at hd
  cases hd

/-! Digits after zeros. -/

theorem isDigit_of_mem_padDigits {width n : Nat} {c : Char} (h : c ∈ padDigits width n) :
    isDigit c = true := by
  obtain h | h := List.mem_append.1 h
  · rw [List.eq_of_mem_replicate h]
    rfl
  · exact isDigit_of_mem_natDigits h

theorem digitsValue_padDigits (width n : Nat) : digitsValue 0 (padDigits width n) = n := by
  have hzeros : digitsValue 0 (List.replicate (width - (natDigits n).length) '0') = 0 := by
    induction width - (natDigits n).length with
    | zero => rfl
    | succ m ih => exact ih
  rw [padDigits, digitsValue, List.foldl_append]
  change digitsValue (digitsValue 0 (List.replicate _ '0')) (natDigits n) = n
  rw [hzeros, digitsValue_natDigits]

theorem length_padDigits {width n : Nat} (hpos : 0 < width) (h : n < Nat.pow 10 width) :
    (padDigits width n).length = width := by
  have hlength : (natDigits n).length ≤ width := (Nat.length_toDigits_le_iff (by decide) hpos).2 h
  rw [padDigits, List.length_append, List.length_replicate]
  omega

theorem padDigits_ne_nil (width n : Nat) : padDigits width n ≠ [] := by
  intro h
  exact Nat.toDigits_ne_nil (List.append_eq_nil_iff.1 h).2

theorem readMagnitude_natDigits {limit n : Nat} {fault : NumeralFault} (h : n ≤ limit) :
    readMagnitude limit fault (natDigits n) = .ok n := by
  have hvalue := digitsValue_natDigits n
  rw [readMagnitude, readDigits_eq (fun _ => isDigit_of_mem_natDigits) (hvalue.symm ▸ h), hvalue]
  exact Nat.toDigits_ne_nil

/-- A number of 64 bits is read back from its digits. -/
theorem readSigned_intDigits {i : Int} (hleast : Word.signedMin64 ≤ i) (hmost : i ≤ Word.signedMax64) :
    readSigned (String.ofList (intDigits i)) = .ok i := by
  have hdigits : ∀ c ∈ natDigits i.natAbs, isDigit c = true := fun _ => isDigit_of_mem_natDigits
  rw [readSigned, intDigits, String.toList_ofList]
  by_cases hi : i < 0
  · rw [if_pos hi]
    have hread : readMagnitude (Word.signedMax64 + 1) .tooSmall (natDigits i.natAbs) = .ok i.natAbs := by
      apply readMagnitude_natDigits
      simp only [Word.signedMin64, Word.signedMax64] at hleast ⊢
      omega
    simp only [hread]
    change Except.ok (-(i.natAbs : Int)) = .ok i
    congr 1
    omega
  · rw [if_neg hi]
    have hread : readMagnitude Word.signedMax64 .tooLarge (natDigits i.natAbs) = .ok i.natAbs := by
      apply readMagnitude_natDigits
      omega
    split
    next hnil => exact absurd hnil Nat.toDigits_ne_nil
    next hplus => exact absurd (hdigits '+' (by simp [hplus])) (by decide)
    next hminus => exact absurd (hdigits '-' (by simp [hminus])) (by decide)
    next =>
      rw [hread]
      exact congrArg Except.ok (Int.natAbs_of_nonneg (Int.not_lt.1 hi))

/-! What was read. -/

theorem exists_of_map_eq_ok {ε α β : Type} {x : Except ε α} {f : α → β} {b : β} (h : x.map f = .ok b) :
    ∃ a, x = .ok a ∧ f a = b := by
  cases x with
  | ok a => exact ⟨a, rfl, Except.ok.inj h⟩
  | error => cases h

theorem readDigits_ok {limit n m : Nat} {fault : NumeralFault} {cs : List Char} (hn : n ≤ limit)
    (h : readDigits limit fault n cs = .ok m) : m = digitsValue n cs ∧ m ≤ limit := by
  induction cs generalizing n with
  | nil => cases h; exact ⟨rfl, hn⟩
  | cons c cs ih =>
    simp only [readDigits] at h
    split at h
    · split at h
      next hlimit => exact ih hlimit h
      · cases h
    · cases h

theorem readMagnitude_ok {limit m : Nat} {fault : NumeralFault} {cs : List Char}
    (h : readMagnitude limit fault cs = .ok m) : m = digitsValue 0 cs ∧ m ≤ limit := by
  cases cs with
  | nil => cases h
  | cons c cs => exact readDigits_ok (Nat.zero_le limit) h

theorem readUnsigned_le {limit n : Nat} {s : String} (h : readUnsigned limit s = .ok n) : n ≤ limit := by
  unfold readUnsigned at h
  split at h
  · cases h
  · exact (readMagnitude_ok h).2
  · exact (readMagnitude_ok h).2

/-- What was read has 64 bits. -/
theorem readSigned_bounds {s : String} {i : Int} (h : readSigned s = .ok i) :
    Word.signedMin64 ≤ i ∧ i ≤ Word.signedMax64 := by
  have hleast : Word.signedMin64 = -((Word.signedMax64 : Int) + 1) := by decide
  have hpositive {cs : List Char}
      (h : (readMagnitude Word.signedMax64 .tooLarge cs).map Int.ofNat = .ok i) :
      Word.signedMin64 ≤ i ∧ i ≤ Word.signedMax64 := by
    obtain ⟨n, hread, rfl⟩ := exists_of_map_eq_ok h
    have hlimit := (readMagnitude_ok hread).2
    constructor <;> simp only [Int.ofNat_eq_natCast] <;> omega
  unfold readSigned at h
  split at h
  · cases h
  · exact hpositive h
  next cs _ =>
    cases hread : readMagnitude (Word.signedMax64 + 1) .tooSmall cs with
    | error fault =>
      rw [hread] at h
      cases h
    | ok n =>
      rw [hread] at h
      obtain rfl : -(n : Int) = i := Except.ok.inj h
      have hlimit := (readMagnitude_ok hread).2
      constructor <;> omega
  · exact hpositive h

theorem mem_intDigits {i : Int} {c : Char} (h : c ∈ intDigits i) : c = '-' ∨ isDigit c = true := by
  unfold intDigits at h
  split at h
  · exact (List.mem_cons.1 h).imp_right isDigit_of_mem_natDigits
  · exact .inr (isDigit_of_mem_natDigits h)

/-- What is read from the digits of a number is the number. -/
theorem eq_of_readSigned_intDigits {i j : Int} (h : readSigned (String.ofList (intDigits i)) = .ok j) : j = i := by
  rw [readSigned, intDigits, String.toList_ofList] at h
  have hdigits : ∀ c ∈ natDigits i.natAbs, isDigit c = true := fun _ => isDigit_of_mem_natDigits
  by_cases hi : i < 0
  · rw [if_pos hi] at h
    simp only at h
    cases hread : readMagnitude (Word.signedMax64 + 1) .tooSmall (natDigits i.natAbs) with
    | error fault =>
      rw [hread] at h
      cases h
    | ok n =>
      rw [hread] at h
      obtain rfl : -(n : Int) = j := Except.ok.inj h
      have hvalue := (readMagnitude_ok hread).1
      rw [digitsValue_natDigits] at hvalue
      omega
  · rw [if_neg hi] at h
    split at h
    next hnil => exact absurd hnil Nat.toDigits_ne_nil
    next hplus => exact absurd (hdigits '+' (by simp [hplus])) (by decide)
    next hminus => exact absurd (hdigits '-' (by simp [hminus])) (by decide)
    next =>
      obtain ⟨n, hread, rfl⟩ := exists_of_map_eq_ok h
      have hvalue := (readMagnitude_ok hread).1
      rw [digitsValue_natDigits] at hvalue
      rw [hvalue]
      exact Int.natAbs_of_nonneg (Int.not_lt.1 hi)

/-- The digits of a number are read as the number, unless it is refused. -/
theorem readSigned_intDigits_or (i : Int) :
    readSigned (String.ofList (intDigits i)) = .ok i ∨
      ∃ fault, readSigned (String.ofList (intDigits i)) = .error fault := by
  cases h : readSigned (String.ofList (intDigits i)) with
  | error fault => exact .inr ⟨fault, rfl⟩
  | ok j => exact .inl (congrArg _ (eq_of_readSigned_intDigits h))

/-- A number that 64 bits cannot hold is refused. -/
theorem exists_readSigned_intDigits_error {i : Int} (h : i < Word.signedMin64 ∨ Word.signedMax64 < i) :
    ∃ fault, readSigned (String.ofList (intDigits i)) = .error fault := by
  obtain hread | hfault := readSigned_intDigits_or i
  · have hbounds := readSigned_bounds hread
    omega
  · exact hfault

end Text

namespace Store

/-- A bound in digits is not the one without an end. -/
theorem intDigits_ne_unbounded (i : Int) : String.ofList (Text.intDigits i) ≠ "-inf" := by
  intro hbound
  have hmem : 'i' ∈ Text.intDigits i := by
    rw [← String.toList_ofList (l := Text.intDigits i), hbound]
    decide
  obtain hsign | hdigit := Text.mem_intDigits hmem
  · exact absurd hsign (by decide)
  · exact absurd hdigit (by decide)

theorem boundScore_intDigits {i : Int} (hleast : Word.signedMin64 ≤ i) (hmost : i ≤ Word.signedMax64) :
    boundScore (String.ofList (Text.intDigits i)) = i := by
  rw [boundScore, if_neg (intDigits_ne_unbounded i), Text.readSigned_intDigits hleast hmost]

/-- A bound that 64 bits cannot hold stands for the greatest score, on whichever side it lies. -/
theorem boundScore_intDigits_of_outside {i : Int} (h : i < Word.signedMin64 ∨ Word.signedMax64 < i) :
    boundScore (String.ofList (Text.intDigits i)) = Word.signedMax64 := by
  obtain ⟨fault, hfault⟩ := Text.exists_readSigned_intDigits_error h
  rw [boundScore, if_neg (intDigits_ne_unbounded i), hfault]

end Store

end JobQueue
