import JobQueue.Program
import JobQueue.Time.Duration

/-! The dedup gate: which jobs were let through not long ago. A record per job id expires after the
window, and it is set by a single command, so that of several deliveries only one gets through. -/

namespace JobQueue

open Time (Duration)

namespace Dedup

/-- The key of the record of a job. -/
def key (jobId : String) : String :=
  "processed:" ++ jobId

/-- What a record holds. -/
def mark : String := "1"

/-- The seconds for which a record is kept: the whole ones of the window, at least one. -/
def windowSeconds (window : Duration) : Nat :=
  max window.seconds 1

/-- Whether a delivery of a job gets through. -/
def claim (window : Duration) (jobId : String) : Program (Except StoreError Bool) :=
  .send .jobs (.set (key jobId) mark (windowSeconds window))

end Dedup

end JobQueue
