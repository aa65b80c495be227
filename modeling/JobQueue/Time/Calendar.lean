/-! The proleptic Gregorian calendar: dates, their successors, and the date of a day that is
counted from 1970-01-01. -/

namespace JobQueue.Time

def isLeap (year : Int) : Bool :=
  year % 4 == 0 && (year % 100 != 0 || year % 400 == 0)

def monthLength (year : Int) (month : Nat) : Nat :=
  if month == 2 then (if isLeap year then 29 else 28)
  else if month == 4 || month == 6 || month == 9 || month == 11 then 30
  else 31

def yearLength (year : Int) : Nat :=
  if isLeap year then 366 else 365

theorem yearLength_pos (year : Int) : 0 < yearLength year := by
  unfold yearLength; split <;> decide

structure Date where
  year : Int
  month : Nat
  day : Nat
  deriving DecidableEq, Repr

namespace Date

/-- A month from 1 to 12 and a day that the month has. -/
def isValid (d : Date) : Bool :=
  1 ≤ d.month && d.month ≤ 12 && 1 ≤ d.day && d.day ≤ monthLength d.year d.month

def next (d : Date) : Date :=
  if d.day < monthLength d.year d.month then { d with day := d.day + 1 }
  else if d.month < 12 then ⟨d.year, d.month + 1, 1⟩
  else ⟨d.year + 1, 1, 1⟩

def previous (d : Date) : Date :=
  if 1 < d.day then { d with day := d.day - 1 }
  else if 1 < d.month then ⟨d.year, d.month - 1, monthLength d.year (d.month - 1)⟩
  else ⟨d.year - 1, 12, 31⟩

end Date

/-- The year of the day `days` days after the first of January of `year`, and the days left over. -/
def splitYear (year : Int) (days : Nat) : Int × Nat :=
  if days < yearLength year then (year, days)
  else splitYear (year + 1) (days - yearLength year)
termination_by days
decreasing_by have := yearLength_pos year; omega

/-- The month and day of the day `days` days after the first of `month`. -/
def splitMonth (year : Int) (month days : Nat) : Nat × Nat :=
  if days < monthLength year month || 12 ≤ month then (month, days + 1)
  else splitMonth year (month + 1) (days - monthLength year month)
termination_by 12 - month
decreasing_by simp_all; omega

/-- The length of 400 years, after which the calendar repeats. -/
def eraLength : Nat := 146097

/-- The days from the start of year 0 to 1970-01-01. -/
def epochDay : Int := 719528

/-- The date of the day that is `days` days after 1970-01-01. -/
def Date.ofDays (days : Int) : Date :=
  let fromZero := days + epochDay
  let (year, rest) := splitYear (400 * (fromZero / eraLength)) (fromZero % eraLength).toNat
  let (month, day) := splitMonth year 1 rest
  ⟨year, month, day⟩

end JobQueue.Time
