import JobQueue.Time.Calendar

/-! The dates of days: each is a date of the calendar, in the year in which the day lies. -/

namespace JobQueue.Time

/-! ### Years -/

/-- The days of so many years from a first one on. -/
def yearsLength : Int → Nat → Nat
  | _, 0 => 0
  | year, count + 1 => yearLength year + yearsLength (year + 1) count

theorem splitYear_lt {year : Int} {days count : Nat} (h : days < yearsLength year count) :
    year ≤ (splitYear year days).1 ∧ (splitYear year days).1 < year + count ∧
      (splitYear year days).2 < yearLength (splitYear year days).1 := by
  induction count generalizing year days with
  | zero => exact absurd h (Nat.not_lt_zero days)
  | succ count ih =>
    rw [splitYear]
    split
    next hfirst =>
      refine ⟨Int.le_refl year, ?_, hfirst⟩
      dsimp only
      omega
    next hlater =>
      rw [yearsLength] at h
      have hdays : days - yearLength year < yearsLength (year + 1) count := by omega
      obtain ⟨hleast, hmost, hrest⟩ := ih hdays
      exact ⟨by omega, by omega, hrest⟩

/-- The calendar repeats after 400 years. -/
theorem yearLength_add_eras (year eras : Int) : yearLength (year + 400 * eras) = yearLength year := by
  have h4 : (year + 400 * eras) % 4 = year % 4 := by omega
  have h100 : (year + 400 * eras) % 100 = year % 100 := by omega
  have h400 : (year + 400 * eras) % 400 = year % 400 := by omega
  rw [yearLength, isLeap, h4, h100, h400]
  rfl

theorem yearsLength_add_eras (year eras : Int) (count : Nat) :
    yearsLength (year + 400 * eras) count = yearsLength year count := by
  induction count generalizing year with
  | zero => rfl
  | succ count ih =>
    have hnext : year + 400 * eras + 1 = year + 1 + 400 * eras := by omega
    rw [yearsLength, yearsLength, yearLength_add_eras, hnext, ih]

theorem yearsLength_era : yearsLength 0 400 = eraLength := by
  decide +kernel

/-! ### Months -/

/-- The days of so many months from a first one on. -/
def monthsLength (year : Int) : Nat → Nat → Nat
  | _, 0 => 0
  | month, count + 1 => monthLength year month + monthsLength year (month + 1) count

theorem monthsLength_year (year : Int) : monthsLength year 1 12 = yearLength year := by
  cases hleap : isLeap year <;> simp [monthsLength, monthLength, yearLength, hleap]

theorem splitMonth_valid {year : Int} {month days count : Nat} (hmonth : 1 ≤ month)
    (hcount : month + count = 13) (h : days < monthsLength year month count) :
    (Date.mk year (splitMonth year month days).1 (splitMonth year month days).2).isValid = true := by
  induction count generalizing month days with
  | zero => exact absurd h (Nat.not_lt_zero days)
  | succ count ih =>
    rw [monthsLength] at h
    rw [splitMonth]
    split
    next hhere =>
      have hday : days < monthLength year month := by
        simp only [Bool.or_eq_true, decide_eq_true_eq] at hhere
        obtain hhere | hlast := hhere
        · exact hhere
        · obtain rfl : count = 0 := by omega
          exact h
      simp [Date.isValid]
      omega
    next hlater =>
      simp only [Bool.or_eq_true, decide_eq_true_eq, not_or] at hlater
      exact ih (by omega) (by omega) (by omega)

/-! ### Dates -/

/-- The day after the last one of the last year that a moment can have. -/
def calendarDays : Int := 95026237

theorem Date.ofDays_valid (days : Int) : (Date.ofDays days).isValid = true := by
  have hera : ((days + epochDay) % eraLength).toNat < yearsLength (400 * ((days + epochDay) / eraLength)) 400 := by
    have hperiod := yearsLength_add_eras 0 ((days + epochDay) / eraLength) 400
    rw [Int.zero_add] at hperiod
    rw [hperiod, yearsLength_era]
    simp only [eraLength]
    omega
  obtain ⟨-, -, hrest⟩ := splitYear_lt hera
  rw [← monthsLength_year] at hrest
  exact splitMonth_valid (by decide) rfl hrest

/-- A day from 1970 on lies in a year that is not before year 0, and no later than the last one. -/
theorem Date.ofDays_year (days : Int) (hpos : 0 ≤ days) (hlast : days < calendarDays) :
    0 ≤ (Date.ofDays days).year ∧ (Date.ofDays days).year ≤ 262142 := by
  have hperiod := fun count => yearsLength_add_eras 0 ((days + epochDay) / eraLength) count
  simp only [Int.zero_add] at hperiod
  have hyear : (Date.ofDays days).year = (splitYear (400 * ((days + epochDay) / eraLength))
      ((days + epochDay) % eraLength).toNat).1 := rfl
  rw [hyear]
  by_cases hera : (days + epochDay) / eraLength < 655
  · have hdays : ((days + epochDay) % eraLength).toNat <
        yearsLength (400 * ((days + epochDay) / eraLength)) 400 := by
      rw [hperiod, yearsLength_era]
      simp only [eraLength]
      omega
    obtain ⟨hleast, hmost, -⟩ := splitYear_lt hdays
    simp only [eraLength, epochDay] at hera hleast hmost ⊢
    omega
  · -- The last era ends after 143 years.
    have hyears : yearsLength 0 143 = 52230 := by decide +kernel
    have hdays : ((days + epochDay) % eraLength).toNat <
        yearsLength (400 * ((days + epochDay) / eraLength)) 143 := by
      rw [hperiod, hyears]
      simp only [eraLength, epochDay, calendarDays] at hera hlast ⊢
      omega
    obtain ⟨hleast, hmost, -⟩ := splitYear_lt hdays
    simp only [eraLength, epochDay, calendarDays] at hera hlast hleast hmost ⊢
    omega

end JobQueue.Time
