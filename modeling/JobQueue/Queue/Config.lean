import JobQueue.Retry

/-! Queues as they are registered: where their jobs are kept, and how deliveries are run. -/

namespace JobQueue

/-- What applies to every job of a queue. -/
structure JobOptions where
  /-- How many deliveries a job gets before it has failed for good. -/
  attempts : Option Nat
  backoff : Option RetryPolicy
  deriving DecidableEq, Repr

namespace JobOptions

open Json in
def codec : Codec JobOptions :=
  .record "JobOptions"
    (.cons (.optional "attempts" .word32) <| .cons (.optional "backoff" RetryPolicy.codec) .nil)
    (fun (attempts, backoff, ()) => ⟨attempts, backoff⟩)
    (fun o => (o.attempts, o.backoff, ()))

end JobOptions

structure QueueConfig where
  name : String
  /-- The first part of all keys, written `prefix` in JSON. -/
  scope : String
  concurrency : Option Nat
  removeOnComplete : Option Bool
  removeOnFail : Option Bool
  defaultJobOptions : Option JobOptions
  deriving DecidableEq, Repr

namespace QueueConfig

/-- A queue with nothing set but its name and scope. -/
def named (name scope : String) : QueueConfig :=
  ⟨name, scope, none, none, none, none⟩

open Json in
def codec : Codec QueueConfig :=
  .record "QueueConfig"
    (.cons (.required "name" .string) <|
      .cons (.required "prefix" .string) <|
      .cons (.optional "concurrency" .size) <|
      .cons (.optional "removeOnComplete" .bool) <|
      .cons (.optional "removeOnFail" .bool) <|
      .cons (.optional "defaultJobOptions" JobOptions.codec) .nil)
    (fun (name, scope, concurrency, removeOnComplete, removeOnFail, options, ()) =>
      ⟨name, scope, concurrency, removeOnComplete, removeOnFail, options⟩)
    (fun c =>
      (c.name, c.scope, c.concurrency, c.removeOnComplete, c.removeOnFail, c.defaultJobOptions, ()))

/-- The key of one of the structures of a queue. -/
def key (config : QueueConfig) (suffix : String) : String :=
  config.scope ++ ":" ++ config.name ++ ":" ++ suffix

def waitKey (config : QueueConfig) : String := config.key "wait"

def activeKey (config : QueueConfig) : String := config.key "active"

def delayedKey (config : QueueConfig) : String := config.key "delayed"

def completedKey (config : QueueConfig) : String := config.key "completed"

def failedKey (config : QueueConfig) : String := config.key "failed"

def deadLetterKey (config : QueueConfig) : String := config.key "dead-letter"

/-- The channel on which rejections are published. -/
def responseChannel (config : QueueConfig) : String :=
  config.scope ++ ":responses"

/-- How many jobs are handled at once, at least one. -/
def maxConcurrency (config : QueueConfig) : Nat :=
  max (config.concurrency.getD 1) 1

/-- How many deliveries a job gets, at least one. -/
def maxAttempts (config : QueueConfig) : Nat :=
  max ((config.defaultJobOptions.bind JobOptions.attempts).getD 1) 1

def retryPolicy (config : QueueConfig) : RetryPolicy :=
  (config.defaultJobOptions.bind JobOptions.backoff).getD RetryPolicy.default

/-- Completed jobs are removed unless the queue says otherwise. -/
def keepsCompleted (config : QueueConfig) : Bool :=
  !config.removeOnComplete.getD true

/-- Failed jobs are kept unless the queue says otherwise. -/
def keepsFailed (config : QueueConfig) : Bool :=
  !config.removeOnFail.getD false

end QueueConfig

end JobQueue
