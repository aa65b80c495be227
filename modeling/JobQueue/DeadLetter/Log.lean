import JobQueue.DeadLetter
import JobQueue.Program
import JobQueue.Queue.Config

/-! The log of dead letters, a list to which entries are only ever appended. -/

namespace JobQueue.DeadLetterLog

/-- The entries among texts, without those that are not readable. -/
def readable (texts : List String) : List DeadLetterEntry :=
  texts.filterMap fun text => (DeadLetterEntry.codec.ofText text).toOption

variable (config : QueueConfig)

def record (entry : DeadLetterEntry) : Program (Except StoreError Unit) :=
  .send .deadLetters (.rpush config.deadLetterKey (DeadLetterEntry.codec.text entry))

/-- Records the failure of a job now. -/
def recordFailure (queueName : String) (job : Job) (reason : String) :
    Program (Except StoreError Unit) := do
  let now ← Program.recordTime
  record config (.ofJob queueName job reason (.ofEpochNanos now))

/-- The readable entries from one index to another, the oldest first. -/
def entries (start stop : Int) : Program (Except StoreError (List DeadLetterEntry)) :=
  (Program.send .deadLetters (.lrange config.deadLetterKey start stop)).bind fun r =>
    .done (r.map readable)

/-- How many entries there are, readable or not. -/
def count : Program (Except StoreError Nat) :=
  .send .deadLetters (.llen config.deadLetterKey)

end JobQueue.DeadLetterLog
