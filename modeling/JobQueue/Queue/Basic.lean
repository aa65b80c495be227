import JobQueue.Program
import JobQueue.Queue.Config

/-! The operations of a queue. Jobs wait in one list and are active in another while a worker holds
them; failed deliveries are delayed in a sorted set by the time at which they are due again. -/

namespace JobQueue

open Time (Duration)

inductive QueueError where
  | store (cause : StoreError)
  | unreadable (cause : Json.Fault)
  deriving Repr

def QueueError.message : QueueError → String
  | .store cause => "queue store command failed: " ++ cause.message
  | .unreadable cause => "failed to parse job envelope: " ++ cause.message

/-- A delivery that a worker holds. The envelope is the text that stands for it among the active
ones. -/
structure ReservedJob where
  job : Job
  envelope : String
  deriving Repr

/-- What a queue does: a program that may fail. -/
abbrev QueueAction (α : Type) : Type := ExceptT QueueError Program α

namespace QueueAction

/-- Sends a command to the store of the queue. -/
def send (c : Command) : QueueAction c.Answer :=
  ExceptT.mk ((Program.send .jobs c).bind fun r => .done (r.mapError .store))

/-- The time in milliseconds since the start of 1970. -/
def clockMillis : QueueAction Int :=
  ExceptT.mk (Program.recordTime.bind fun nanos => .done (.ok (nanos / Time.nanosPerMilli)))

/-- A value that may be a panic. -/
def ofExcept {α : Type} (a : Except Panic α) : QueueAction α :=
  ExceptT.mk ((Program.ofExcept a).bind fun a => .done (.ok a))

end QueueAction

namespace Queue

open QueueAction

variable (config : QueueConfig)

def enqueue (job : Job) : QueueAction Unit :=
  send (.lpush config.waitKey (Job.codec.text job))

/-- Removes one copy of an envelope from the active ones. -/
def release (envelope : String) : QueueAction Unit := do
  let _ ← send (.lrem config.activeKey 1 envelope)

/-- Reserves the oldest waiting job, if there is one. An envelope that is not readable goes to the
failed ones, since it would otherwise stay active forever. -/
def dequeue : QueueAction (Option ReservedJob) := do
  match ← send (.rpoplpush config.waitKey config.activeKey) with
  | none => return none
  | some envelope =>
    match Job.codec.ofText envelope with
    | .ok job => return some ⟨job, envelope⟩
    | .error fault =>
      send (.rpush config.failedKey envelope)
      release config envelope
      throw (.unreadable fault)

/-- Ends a job that needs no further delivery. -/
def complete (reserved : ReservedJob) : QueueAction Unit := do
  if config.keepsCompleted then
    send (.rpush config.completedKey reserved.envelope)
  release config reserved.envelope

/-- Gives up on a job. -/
def fail (reserved : ReservedJob) : QueueAction Unit := do
  if config.keepsFailed then
    send (.rpush config.failedKey reserved.envelope)
  release config reserved.envelope

/-- When a delay that starts at `now` is over, in milliseconds. -/
def dueAt (now : Int) (delay : Duration) : Except Panic Int :=
  let due := now + delay.signedMillis
  if Word.signedMin64 ≤ due && due ≤ Word.signedMax64 then .ok due else .error .sumOverflow

/-- Schedules the next delivery of a job. It is scheduled before it is released, so that a crash
between the two doubles the job and does not lose it. -/
def retry (reserved : ReservedJob) (delay : Duration) : QueueAction Unit := do
  let next ← ofExcept reserved.job.next
  let due ← ofExcept (dueAt (← clockMillis) delay)
  send (.zadd config.delayedKey (Job.codec.text next) due)
  release config reserved.envelope

/-- Lets delayed jobs wait again, and counts those that this call took off the delayed ones. -/
def promoteAll : List String → Nat → QueueAction Nat
  | [], promoted => return promoted
  | envelope :: due, promoted => do
    if ← send (.zrem config.delayedKey envelope) then
      send (.lpush config.waitKey envelope)
      promoteAll due (promoted + 1)
    else promoteAll due promoted

/-- Lets all delayed jobs that are due wait again, and counts them. -/
def promoteDue : QueueAction Nat := do
  let now ← clockMillis
  promoteAll config
    (← send (.zrangebyscore config.delayedKey "-inf" (String.ofList (Text.intDigits now)))) 0

end Queue

end JobQueue
