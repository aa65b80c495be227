import JobQueue.Panic
import JobQueue.Time.Moment

/-! Readings of the wall clock, in nanoseconds since the start of 1970. The clock can be set to anything,
and a program that needs a date panics if a reading has none. -/

namespace JobQueue.Clock

open Time (nanosPerSecond)

/-- The end of the last year that a moment can have. -/
def calendarEnd : Int := 8210266876800 * nanosPerSecond

/-- A reading as the time of a record, which cannot lie before 1970. -/
def recordTime (reading : Int) : Except Panic Int :=
  if reading < 0 then .error (.clockBeforeEpoch (.saturate reading.natAbs))
  else if reading < calendarEnd then .ok reading
  else .error .clockBeyondCalendar

/-- The end of the last year that has a written form, and the start of the first one. -/
def latest : Int := 253402300800 * nanosPerSecond

def earliest : Int := -377705116800 * nanosPerSecond

def nanosPerDay : Nat := 86400 * nanosPerSecond

/-- Whether a time lies in a year that has a written form. -/
def isWritten (time : Int) : Bool :=
  earliest ≤ time && time < latest

/-- A reading as the time at which a report is made or looked at. -/
def reportTime (reading : Int) : Except Panic Int :=
  if isWritten reading then .ok reading
  else if latest ≤ reading then .error .dateSumOverflow
  else if reading ≤ earliest - nanosPerDay then .error .dateDifferenceOverflow
  else .error .dateOverflow

end JobQueue.Clock
