import JobQueue.Json.Codec
import JobQueue.Panic

/-! Jobs as a queue delivers them, and the requests that valid ones carry. -/

namespace JobQueue

/-- A delivery of a job. All deliveries of a job have the same id; the attempt counts them from 1.
The data is as the producer gave it. -/
structure Job where
  id : String
  attempt : Nat
  data : Json
  deriving Repr, Inhabited

/-- A request in normal form, ready to be processed. -/
structure JobRequest where
  jobId : String
  query : String
  clientId : String
  deriving DecidableEq, Repr, Inhabited

namespace Job

/-- The attempt of a first delivery. -/
def firstAttempt : Nat := 1

/-- The last attempt that can be counted. -/
def lastAttempt : Nat := Word.max32

def first (id : String) (data : Json) : Job :=
  ⟨id, firstAttempt, data⟩

/-- The same job as its next delivery will show it. -/
def next (job : Job) : Except Panic Job :=
  if job.attempt < lastAttempt then .ok { job with attempt := job.attempt + 1 }
  else .error .sumOverflow

/-- The client that the data names, whether or not the data is otherwise valid. -/
def clientId? (job : Job) : Option String :=
  (job.data.get? "clientId").bind Json.string?

open Json in
def codec : Codec Job :=
  .record "Job"
    (.cons (.required "id" .string) <|
      .cons (.defaulted "attempt" .word32 firstAttempt) <|
      .cons (.required "data" .any) .nil)
    (fun (id, attempt, data, ()) => ⟨id, attempt, data⟩)
    (fun job => (job.id, job.attempt, job.data, ()))

end Job

namespace JobRequest

open Json in
def codec : Codec JobRequest :=
  .record "JobRequest"
    (.cons (.required "jobId" .string) <|
      .cons (.required "query" .string) <|
      .cons (.required "clientId" .string) .nil)
    (fun (jobId, query, clientId, ()) => ⟨jobId, query, clientId⟩)
    (fun request => (request.jobId, request.query, request.clientId, ()))

end JobRequest

end JobQueue
