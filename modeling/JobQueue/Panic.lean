import JobQueue.Time.Duration

/-! Faults of the program itself, as opposed to errors that it reports: they end the task that runs
into them. -/

namespace JobQueue

open Time (Duration)

inductive Panic where
  /-- A sum does not fit its word. -/
  | sumOverflow
  /-- A deadline lies beyond what the clock can count. -/
  | deadlineOverflow
  /-- A timer is to tick without any time between its ticks. -/
  | zeroPeriod
  /-- There are to be more permits than can be counted. -/
  | tooManyPermits
  /-- A date lies outside of the years that have a written form. -/
  | dateOverflow
  /-- The wall clock stands too far after 1970 for its date to have a written form. -/
  | dateSumOverflow
  /-- The wall clock stands too far before 1970 for that. -/
  | dateDifferenceOverflow
  /-- The wall clock stands some time before 1970. -/
  | clockBeforeEpoch (distance : Duration)
  /-- The wall clock stands beyond the last date of all. -/
  | clockBeyondCalendar
  deriving DecidableEq, Repr

namespace Panic

def message : Panic → String
  | sumOverflow => "attempt to add with overflow"
  | deadlineOverflow => "overflow when adding duration to instant"
  | zeroPeriod => "`period` must be non-zero."
  | tooManyPermits =>
    "a semaphore may not have more than MAX_PERMITS permits (2305843009213693951)"
  | dateOverflow => "resulting value is out of range"
  | dateSumOverflow => "overflow adding duration to date"
  | dateDifferenceOverflow => "overflow subtracting duration from date"
  | clockBeforeEpoch distance =>
    "system time before Unix epoch: SystemTimeError(" ++ distance.text ++ ")"
  | clockBeyondCalendar => "called `Option::unwrap()` on a `None` value"

end Panic

end JobQueue
