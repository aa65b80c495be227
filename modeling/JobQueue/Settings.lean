import JobQueue.Queue.Config
import JobQueue.Text.Numeral

/-! Settings of a worker, read from environment variables. A variable that is not set has a
default, and the first one that cannot be read is reported. -/

namespace JobQueue

open Time (Duration)

/-- How often a failed job is tried again, and how long it waits. -/
structure RetrySettings where
  maxAttempts : Nat
  backoffCoefficient : Nat
  initialInterval : Duration
  maximumInterval : Duration
  deriving DecidableEq, Repr

structure Settings where
  host : String
  port : Nat
  redisUrl : String
  redisTimeout : Duration
  queueName : String
  queueScope : String
  concurrency : Nat
  pollInterval : Duration
  dedupTtlSeconds : Nat
  maxQueryLength : Nat
  processingUrl : String
  processingTimeout : Duration
  removeOnComplete : Bool
  removeOnFail : Bool
  retry : RetrySettings
  deriving DecidableEq, Repr

namespace Settings

/-- An environment: the variables that are set. -/
abbrev Environment : Type := List (String × String)

/-- A variable that is set to what cannot be read. -/
inductive Fault where
  | unreadable (name : String)
  deriving DecidableEq, Repr

namespace Fault

def message : Fault → String
  | unreadable name => "Failed to parse environment variable " ++ name

end Fault

/-! ### Values -/

/-- Whole milliseconds. -/
def readMillis (s : String) : Option Duration :=
  (Text.readUnsigned Word.max64 s).toOption.map Duration.ofMillis

def readNonEmpty (s : String) : Option String :=
  if s.isEmpty then none else some s

def readBool (s : String) : Option Bool :=
  if s = "true" then some true else if s = "false" then some false else none

def readWord (limit : Nat) (s : String) : Option Nat :=
  (Text.readUnsigned limit s).toOption

/-! ### The environment -/

/-- The value of a variable, or of its default. -/
def setting {α : Type} (env : Environment) (name default : String) (read : String → Option α) :
    Except Fault α :=
  match read ((env.lookup name).getD default) with
  | some a => .ok a
  | none => .error (.unreadable name)

def ofEnvironment (env : Environment) : Except Fault Settings := do
  let host ← setting env "BIND_HOST" "0.0.0.0" some
  let port ← setting env "BIND_PORT" "3302" (readWord Word.max16)
  let redisUrl ← setting env "REDIS_URL" "redis://localhost:6379/" some
  let redisTimeout ← setting env "REDIS_TIMEOUT_MS" "1000" readMillis
  let queueName ← setting env "QUEUE_NAME" "requests" readNonEmpty
  let queueScope ← setting env "QUEUE_PREFIX" "jobs" readNonEmpty
  let concurrency ← setting env "CONCURRENCY" "10" (readWord Word.max64)
  let pollInterval ← setting env "POLL_INTERVAL" "100" readMillis
  let dedupTtlSeconds ← setting env "DEDUP_TTL_SECONDS" "86400" (readWord Word.max64)
  let maxQueryLength ← setting env "MAX_QUERY_LENGTH" "1000" (readWord Word.max64)
  let processingUrl ← setting env "PROCESSING_URL" "http://localhost:8000/process" some
  let processingTimeout ← setting env "PROCESSING_TIMEOUT" "30000" readMillis
  let removeOnComplete ← setting env "REMOVE_ON_COMPLETE" "true" readBool
  let removeOnFail ← setting env "REMOVE_ON_FAIL" "false" readBool
  let maxAttempts ← setting env "MAX_ATTEMPTS" "3" (readWord Word.max32)
  let backoffCoefficient ← setting env "BACKOFF_COEFFICIENT" "2" (readWord Word.max32)
  let initialInterval ← setting env "INITIAL_INTERVAL" "1000" readMillis
  let maximumInterval ← setting env "MAXIMUM_INTERVAL" "60000" readMillis
  .ok { host, port, redisUrl, redisTimeout, queueName, queueScope, concurrency, pollInterval,
        dedupTtlSeconds, maxQueryLength, processingUrl, processingTimeout, removeOnComplete,
        removeOnFail,
        retry := { maxAttempts, backoffCoefficient, initialInterval, maximumInterval } }

/-- The address on which requests are served. -/
def bind (s : Settings) : String :=
  s.host ++ ":" ++ String.ofList (Text.natDigits s.port)

def dedupTtl (s : Settings) : Duration :=
  .ofSeconds s.dedupTtlSeconds

/-- The queue as it is registered. -/
def queueConfig (s : Settings) : QueueConfig where
  name := s.queueName
  scope := s.queueScope
  concurrency := some s.concurrency
  removeOnComplete := some s.removeOnComplete
  removeOnFail := some s.removeOnFail
  defaultJobOptions := some {
    attempts := some s.retry.maxAttempts
    backoff := some {
      backoffCoefficient := s.retry.backoffCoefficient
      initialInterval := s.retry.initialInterval
      maximumInterval := some s.retry.maximumInterval } }

end Settings

end JobQueue
