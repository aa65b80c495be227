import JobQueue.Clock
import JobQueue.Proofs.Text.Numeral
import JobQueue.Proofs.Time.Calendar

/-! Moments are read back from their canonical form. This holds for all those that the clock shows, up to
the last year, whose text has a sign. -/

namespace JobQueue.Time.Moment

/-- A moment of a year from 0 on, and no leap second. -/
structure IsRegular (m : Moment) : Prop where
  date : m.date.isValid = true
  year_nonneg : 0 ≤ m.date.year
  year_le : m.date.year ≤ 262142
  hour : m.hour < 24
  minute : m.minute < 60
  second : m.second < 60
  nanosecond : m.nanosecond < nanosPerSecond

theorem isRegular_ofEpochNanos {reading nanos : Int} (h : Clock.recordTime reading = .ok nanos) :
    (ofEpochNanos nanos).IsRegular := by
  have hrange : 0 ≤ nanos ∧ nanos < Clock.calendarEnd := by
    unfold Clock.recordTime at h
    split at h
    · cases h
    · split at h
      · cases h
        omega
      · cases h
  simp only [Clock.calendarEnd, nanosPerSecond] at hrange
  obtain ⟨hleast, hmost⟩ := Date.ofDays_year (nanos / nanosPerSecond / 86400)
    (by simp only [nanosPerSecond]; omega) (by simp only [nanosPerSecond, calendarDays]; omega)
  have hday : (nanos / nanosPerSecond % 86400).toNat < 86400 := by omega
  exact {
    date := Date.ofDays_valid _
    year_nonneg := hleast
    year_le := hmost
    hour := by simp only [ofEpochNanos]; omega
    minute := by simp only [ofEpochNanos]; omega
    second := by simp only [ofEpochNanos]; omega
    nanosecond := by simp only [ofEpochNanos, nanosPerSecond]; omega }

/-! ### Numbers of fixed width -/

theorem not_isBlank_of_isDigit {c : Char} (h : Text.isDigit c = true) : Text.isBlank c = false := by
  have hrange : 48 ≤ c.toNat ∧ c.toNat ≤ 57 := by
    simpa [Text.isDigit, Char.le_def, UInt32.le_iff_toNat_le] using h
  simp only [Text.isBlank]
  generalize c.toNat = n at hrange
  simp
  omega

theorem dropBlank_cons {c : Char} (h : Text.isBlank c = false) (cs : List Char) :
    Text.dropBlank (c :: cs) = c :: cs :=
  List.dropWhile_cons_of_neg (by simp [h])

/-- A run of digits is read as a whole if it has the greatest width, or if something else follows. -/
theorem readDigits_append (most : Nat) {ds : List Char} (rest : List Char)
    (hds : ∀ d ∈ ds, Text.isDigit d = true) (hne : ds ≠ []) (hlength : ds.length ≤ most)
    (hrest : ds.length = most ∨ ∀ c ∈ rest.head?, Text.isDigit c = false)
    (hvalue : Text.digitsValue 0 ds ≤ Word.signedMax64) :
    readDigits most (ds ++ rest) = .ok (Text.digitsValue 0 ds, rest) := by
  have htake : ((ds ++ rest).take most).takeWhile Text.isDigit = ds := by
    have hstop : (rest.take (most - ds.length)).takeWhile Text.isDigit = [] := by
      obtain hfull | hother := hrest
      · rw [hfull, Nat.sub_self]
        rfl
      · match rest, most - ds.length with
        | [], _ => simp
        | _ :: _, 0 => rfl
        | c :: _, _ + 1 => simp [hother c rfl]
    rw [List.take_append, List.take_of_length_le hlength, List.takeWhile_append_of_pos hds, hstop,
      List.append_nil]
  obtain ⟨d, tail, rfl⟩ := List.exists_cons_of_ne_nil hne
  unfold readDigits
  rw [htake]
  simp [hvalue]

/-- A number of a fixed width is read back, with no regard to what follows. -/
theorem readDigits_padDigits (width n : Nat) (hwidth : 0 < width) (hn : n < Nat.pow 10 width)
    (hvalue : n ≤ Word.signedMax64) (rest : List Char) :
    readDigits width (Text.padDigits width n ++ rest) = .ok (n, rest) := by
  have hlength := Text.length_padDigits hwidth hn
  have hread := readDigits_append width rest (fun _ => Text.isDigit_of_mem_padDigits)
    (Text.padDigits_ne_nil width n) (Nat.le_of_eq hlength) (.inl hlength)
    (by rwa [Text.digitsValue_padDigits])
  rwa [Text.digitsValue_padDigits] at hread

/-- No blanks stand before digits. -/
theorem dropBlank_digits {ds : List Char} (hds : ∀ d ∈ ds, Text.isDigit d = true) (hne : ds ≠ [])
    (rest : List Char) : Text.dropBlank (ds ++ rest) = ds ++ rest := by
  obtain ⟨d, tail, rfl⟩ := List.exists_cons_of_ne_nil hne
  exact dropBlank_cons (not_isBlank_of_isDigit (hds d (.head tail))) _

theorem readField_padDigits {low high n : Nat} (hlow : low ≤ n) (hhigh : n ≤ high) (hn : n < 100)
    (rest : List Char) : readField low high (Text.padDigits 2 n ++ rest) = .ok (n, rest) := by
  have hread := readDigits_padDigits 2 n (by decide) hn
    (by simp only [Word.signedMax64]; omega) rest
  rw [readField, dropBlank_digits (fun _ => Text.isDigit_of_mem_padDigits) (Text.padDigits_ne_nil 2 n),
    hread]
  change (if (low ≤ n && n ≤ high) = true then _ else _) = _
  rw [if_pos (by simp [hlow, hhigh])]

theorem readMark_cons (mark : Char) (h : Text.isBlank mark = false) (rest : List Char) :
    readMark mark (mark :: rest) = .ok rest := by
  rw [readMark, dropBlank_cons h]
  exact if_pos rfl

/-! ### Years and fractions -/

theorem readYear_yearText {year : Int} (hleast : 0 ≤ year) (hmost : year ≤ 262142) (rest : List Char) :
    readYear (yearText year ++ '-' :: rest) = .ok (year, '-' :: rest) := by
  have habs : (year.natAbs : Int) = year := by omega
  have hrange : (Word.signedMin32 ≤ year && year ≤ Word.signedMax32) = true := by
    simp only [Word.signedMin32, Word.signedMax32, Bool.and_eq_true, decide_eq_true_eq]
    omega
  have hvalue : year.natAbs ≤ Word.signedMax64 := by
    simp only [Word.signedMax64]
    omega
  unfold yearText
  rw [if_neg (by omega)]
  by_cases hshort : year ≤ 9999
  · rw [if_pos hshort]
    have hread := readDigits_padDigits 4 year.natAbs (by decide) (by omega : year.natAbs < 10000) hvalue
      ('-' :: rest)
    have hdigits : ∀ d ∈ Text.padDigits 4 year.natAbs, Text.isDigit d = true :=
      fun _ => Text.isDigit_of_mem_padDigits
    rw [readYear, dropBlank_digits hdigits (Text.padDigits_ne_nil 4 _)]
    have hunsigned := fun c hc => Text.digits_append_ne_cons (c := c) hdigits (Text.padDigits_ne_nil 4 _) hc
    split
    next heq => exact absurd heq (hunsigned '-' rfl _ _)
    next heq => exact absurd heq (hunsigned '+' rfl _ _)
    next =>
      rw [hread]
      change (if (Word.signedMin32 ≤ (year.natAbs : Int) && (year.natAbs : Int) ≤ Word.signedMax32) = true
        then _ else _) = _
      rw [habs, if_pos hrange]
  · rw [if_neg hshort]
    have hdigits : Text.digitsValue 0 (Text.natDigits year.natAbs) = year.natAbs :=
      Text.digitsValue_natDigits _
    have hread := readDigits_append (Text.natDigits year.natAbs ++ '-' :: rest).length ('-' :: rest)
      (fun _ => Text.isDigit_of_mem_natDigits (n := year.natAbs)) Nat.toDigits_ne_nil
      (by rw [List.length_append]; omega) (.inr (by rintro _ ⟨⟩; rfl)) (by rwa [hdigits])
    rw [readYear, List.cons_append, dropBlank_cons (by decide)]
    simp only [hread, hdigits, bind, Except.bind, habs, hrange, if_true]

/-- Digits of a width are read as that many places of a fraction. -/
theorem readFraction_padDigits {width n : Nat} (hwidth : 0 < width) (hmost : width ≤ 9)
    (hn : n < Nat.pow 10 width) (rest : List Char) : readFraction ('.' :: (Text.padDigits width n ++ 'Z' :: rest)) =
      .ok (n * Nat.pow 10 (9 - width), 'Z' :: rest) := by
  have hlength := Text.length_padDigits hwidth hn
  have hvalue : n ≤ Word.signedMax64 := by
    have hplaces : n < 1000000000 := Nat.lt_of_lt_of_le hn (Nat.pow_le_pow_right (by decide) hmost)
    simp only [Word.signedMax64]
    omega
  have hread := readDigits_append 9 ('Z' :: rest)
    (fun _ => Text.isDigit_of_mem_padDigits) (Text.padDigits_ne_nil width n)
    (by omega) (.inr (by rintro _ ⟨⟩; rfl)) (by rwa [Text.digitsValue_padDigits])
  rw [Text.digitsValue_padDigits] at hread
  have hplaces : (Text.padDigits width n ++ 'Z' :: rest).length - ('Z' :: rest).length = width := by
    rw [List.length_append]
    omega
  rw [readFraction, hread]
  simp only [bind, Except.bind, hplaces]
  rfl

/-- A fraction without a rest is read back from its places. -/
theorem readFraction_places (width unit : Nat) {nanos : Nat} (hwidth : 0 < width) (hmost : width ≤ 9)
    (hunit : Nat.pow 10 (9 - width) = unit) (hwhole : nanos % unit = 0)
    (hplaces : nanos / unit < Nat.pow 10 width) (rest : List Char) :
    readFraction ('.' :: (Text.padDigits width (nanos / unit) ++ 'Z' :: rest)) = .ok (nanos, 'Z' :: rest) := by
  rw [readFraction_padDigits hwidth hmost hplaces, hunit, Nat.div_mul_cancel (Nat.dvd_of_mod_eq_zero hwhole)]

theorem readFraction_fractionText {nanos : Nat} (h : nanos < nanosPerSecond) (rest : List Char) :
    readFraction (fractionText nanos ++ 'Z' :: rest) = .ok (nanos, 'Z' :: rest) := by
  simp only [nanosPerSecond] at h
  unfold fractionText
  split
  next hzero =>
    obtain rfl : nanos = 0 := by simpa using hzero
    rfl
  next =>
    split
    next hmillis =>
      exact readFraction_places 3 1000000 (by decide) (by decide) rfl (beq_iff_eq.1 hmillis)
        (by omega : nanos / 1000000 < 1000) rest
    next =>
      split
      next hmicros =>
        exact readFraction_places 6 1000 (by decide) (by decide) rfl (beq_iff_eq.1 hmicros)
          (by omega : nanos / 1000 < 1000000) rest
      next =>
        have hread := readFraction_places 9 1 (by decide) (by decide) rfl (Nat.mod_one nanos)
          (by omega : nanos / 1 < 1000000000) rest
        rwa [Nat.div_one] at hread

/-! ### Moments -/

theorem ofLocal_zero {m : Moment} (h : m.IsRegular) : ofLocal m 0 = .ok m := by
  obtain ⟨date, hour, minute, second, nanosecond⟩ := m
  obtain ⟨hdate, hleast, hmost, hhour, hminute, -, -⟩ := h
  dsimp only at hdate hleast hmost hhour hminute
  have hrange : yearInRange date.year = true := by
    simp only [yearInRange, Bool.and_eq_true, decide_eq_true_eq]
    omega
  have hminutes : ¬ (60 * hour + minute : Int) - 0 < 0 ∧ (60 * hour + minute : Int) - 0 < 1440 := by omega
  have hofDay : (((60 * hour + minute : Int) - 0) % 1440).toNat = 60 * hour + minute := by omega
  have hhour' : (60 * hour + minute) / 60 = hour := by omega
  have hminute' : (60 * hour + minute) % 60 = minute := by omega
  rw [ofLocal]
  simp only [hdate, hrange, Bool.and_self, Bool.not_true, Bool.false_eq_true, if_false, hminutes.1,
    hminutes.2, if_true, hofDay, hhour', hminute']
  rfl

/-- A moment is read back from its canonical form. -/
theorem ofText_text {m : Moment} (h : m.IsRegular) : ofText m.text = .ok m := by
  have hdate := h.date
  simp only [Date.isValid, Bool.and_eq_true, decide_eq_true_eq] at hdate
  obtain ⟨⟨⟨hmonth, hmonth'⟩, hday⟩, hday'⟩ := hdate
  have hlength : monthLength m.date.year m.date.month ≤ 31 := by
    unfold monthLength
    split
    · split <;> decide
    · split <;> decide
  have hhour := h.hour
  have hminute := h.minute
  have hsecond := h.second
  have htext : m.text = yearText m.date.year ++ '-' :: (Text.padDigits 2 m.date.month ++ '-' ::
      (Text.padDigits 2 m.date.day ++ 'T' :: (Text.padDigits 2 m.hour ++ ':' ::
      (Text.padDigits 2 m.minute ++ ':' :: (Text.padDigits 2 m.second ++
      (fractionText m.nanosecond ++ ['Z'])))))) := by
    simp [text]
  have hseparator : ∀ cs, readSeparator ('T' :: cs) = .ok cs := fun _ => rfl
  have hoffset : readOffset ['Z'] = .ok (0, []) := rfl
  rw [htext, ofText, readYear_yearText h.year_nonneg h.year_le]
  simp only [bind, Except.bind, readMark_cons '-' rfl,
    readField_padDigits hmonth hmonth' (by omega),
    readField_padDigits hday (Nat.le_trans hday' hlength) (by omega), hseparator,
    readField_padDigits (Nat.zero_le m.hour) (by omega : m.hour ≤ 23) (by omega),
    readMark_cons ':' rfl,
    readField_padDigits (Nat.zero_le m.minute) (by omega : m.minute ≤ 59) (by omega),
    readField_padDigits (Nat.zero_le m.second) (by omega : m.second ≤ 60) (by omega),
    readFraction_fractionText h.nanosecond, hoffset]
  exact ofLocal_zero h

end JobQueue.Time.Moment
