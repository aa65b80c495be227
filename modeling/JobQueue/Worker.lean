import JobQueue.Health
import JobQueue.Settlement

/-! The loop of a worker: it polls its queue until it holds a job, and then starts the job. Times are
in nanoseconds. -/

namespace JobQueue

open Time (Duration)

/-- Where the loop of a worker stands. -/
inductive WorkerStage where
  /-- The timer of the polls is to be started. -/
  | idle
  /-- The next poll is due at a time. -/
  | waiting (due : Nat)
  /-- A poll starts with a report of health; another one is due later. -/
  | reporting (due : Nat)
  | polling (due : Nat)
  /-- A job was reserved and needs a permit to be started. -/
  | holding (reserved : ReservedJob)
  | failed (error : QueueError)
  | panicked (p : Panic)
  deriving Repr

/-- The most permits that can be counted. -/
def WorkerStage.permitLimit : Nat := Word.max64 / 8

/-- Where the loop of a worker starts: its permits are counted before anything else. -/
def WorkerStage.start (config : QueueConfig) : WorkerStage :=
  if config.maxConcurrency ≤ permitLimit then idle else panicked .tooManyPermits

structure Worker where
  consumer : Consumer
  pollInterval : Duration
  health : HealthHandle
  stage : WorkerStage
  /-- How many more jobs may be started. -/
  permits : Nat

/-- A poll lets due jobs wait again and takes the next job off the queue. Unreadable envelopes count
as no job. -/
def Queue.poll (config : QueueConfig) : QueueAction (Option ReservedJob) := do
  let _ ← Queue.promoteDue config
  tryCatch (Queue.dequeue config) fun
    | .unreadable _ => return none
    | error => throw error

end JobQueue
