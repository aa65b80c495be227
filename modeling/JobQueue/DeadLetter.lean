import JobQueue.Job

/-! Dead letters: jobs that were rejected or whose processing failed, as they are recorded. -/

namespace JobQueue

structure DeadLetterEntry where
  queueName : String
  jobId : String
  reason : String
  payload : Json
  attempt : Nat
  failedAt : Time.Moment
  deriving Repr

namespace DeadLetterEntry

def ofJob (queueName : String) (job : Job) (reason : String) (failedAt : Time.Moment) :
    DeadLetterEntry :=
  ⟨queueName, job.id, reason, job.data, job.attempt, failedAt⟩

open Json in
def codec : Codec DeadLetterEntry :=
  .record "DeadLetterEntry"
    (.cons (.required "queueName" .string) <|
      .cons (.required "jobId" .string) <|
      .cons (.required "reason" .string) <|
      .cons (.required "originalPayload" .any) <|
      .cons (.required "attempt" .word32) <|
      .cons (.required "failedAt" .moment) .nil)
    (fun (queueName, jobId, reason, payload, attempt, failedAt, ()) =>
      ⟨queueName, jobId, reason, payload, attempt, failedAt⟩)
    (fun e => (e.queueName, e.jobId, e.reason, e.payload, e.attempt, e.failedAt, ()))

end DeadLetterEntry

end JobQueue
