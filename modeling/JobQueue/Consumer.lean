import JobQueue.DeadLetter.Log
import JobQueue.Dedup
import JobQueue.Response

/-! The consumer of a queue. A delivery passes the dedup gate, then validation, then processing;
rejected jobs and failures of processing are recorded as dead letters. -/

namespace JobQueue

open Time (Duration)

inductive ConsumerError where
  | validation (cause : ValidationError)
  | processing (cause : ProcessingError)
  | store (cause : StoreError)
  deriving Repr

namespace ConsumerError

def message : ConsumerError → String
  | validation cause => "job payload is invalid: " ++ cause.error
  | processing cause => "job processing failed: " ++ cause.message
  | store cause => "store unavailable: " ++ cause.message

/-- Whether another delivery of the same job could succeed. -/
def isRetryable : ConsumerError → Bool
  | validation _ => false
  | processing _ => true
  | store _ => true

end ConsumerError

inductive Outcome where
  /-- Another delivery of the job got through not long ago. -/
  | skipped
  | success
  | failure (error : ConsumerError)
  deriving Repr

structure Consumer where
  queue : QueueConfig
  window : Duration
  maxQueryLength : Nat

namespace Consumer

variable (consumer : Consumer)

def count (kind : JobMetric) : Program Unit :=
  .count kind consumer.queue.name

/-- Records a failure. An error in doing so is counted and changes nothing else. -/
def deadLetter (job : Job) (reason : String) : Program Unit := do
  match ← DeadLetterLog.recordFailure consumer.queue consumer.queue.name job reason with
  | .ok () => return
  | .error _ => consumer.count .unrecorded

/-- Tells the client of a job that it was rejected. An error in doing so is counted and changes
nothing else. -/
def publishRejection (job : Job) (error : ValidationError) : Program Unit := do
  match ← (JobResponse.rejection job error).publish consumer.queue.responseChannel with
  | .ok () => return
  | .error _ => consumer.count .unpublished

/-- The end of a delivery that is not valid. -/
def reject (job : Job) (error : ValidationError) : Program Outcome := do
  consumer.publishRejection job error
  consumer.deadLetter job error.error
  consumer.count .rejected
  return .failure (.validation error)

/-- The processing of a valid delivery. -/
def process (job : Job) (request : JobRequest) : Program Outcome := do
  let result ← Program.perform (.process request)
  consumer.count .processed
  match result with
  | .ok () =>
    consumer.count .completed
    return .success
  | .error error =>
    consumer.deadLetter job error.message
    consumer.count .failed
    return .failure (.processing error)

/-- The way of a delivery through all gates, given what validation makes of the job. -/
def gates (job : Job) (verdict : Except ValidationError JobRequest) : Program Outcome := do
  consumer.count .delivered
  match ← Dedup.claim consumer.window job.id with
  | .error error =>
    consumer.count .failed
    return .failure (.store error)
  | .ok false =>
    consumer.count .skipped
    return .skipped
  | .ok true =>
    match verdict with
    | .error error => consumer.reject job error
    | .ok request => consumer.process job request

/-- The way of a delivery through all gates. -/
def handle (job : Job) : Program Outcome :=
  consumer.gates job (Validation.validate consumer.maxQueryLength job)

end Consumer

end JobQueue
