import JobQueue.Program
import JobQueue.Validation

/-! Responses: what is published for a job that is rejected. -/

namespace JobQueue

structure JobResponse where
  jobId : String
  clientId : Option String
  error : ValidationError
  deriving DecidableEq, Repr

namespace JobResponse

/-- The response to a rejected job, for the client that its data names. -/
def rejection (job : Job) (error : ValidationError) : JobResponse :=
  ⟨job.id, job.clientId?, error⟩

open Json in
def codec : Codec JobResponse :=
  .record "JobResponse"
    (.cons (.required "jobId" .string) <|
      .cons (.optional "clientId" .string) <|
      .cons (.required "error" ValidationError.codec) .nil)
    (fun (jobId, clientId, error, ()) => ⟨jobId, clientId, error⟩)
    (fun r => (r.jobId, r.clientId, r.error, ()))

def publish (channel : String) (response : JobResponse) : Program (Except StoreError Unit) :=
  .send .jobs (.publish channel (codec.text response))

end JobResponse

end JobQueue
