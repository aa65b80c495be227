import JobQueue.Job

/-! Validation: which payloads are well-formed requests, and what is wrong with the others. -/

namespace JobQueue

/-- Why a payload is rejected, in words for people, and the field that is at fault. -/
structure ValidationError where
  error : String
  field : Option String
  deriving DecidableEq, Repr, Inhabited

namespace ValidationError

open Json in
def codec : Codec ValidationError :=
  .record "ValidationError"
    (.cons (.required "error" .string) <| .cons (.omitted "field" .string) .nil)
    (fun (error, field, ()) => ⟨error, field⟩)
    (fun e => (e.error, e.field, ()))

end ValidationError

namespace Validation

/-- The greatest length of a query, in characters, unless another is set. -/
def defaultMaxQueryLength : Nat := 1000

/-- The first rule that a payload breaks. -/
inductive Violation where
  | notObject | queryType | queryEmpty | queryLength (most : Nat) | clientId | jobId
  deriving DecidableEq, Repr

namespace Violation

def toError : Violation → ValidationError
  | notObject => ⟨"payload must be an object", none⟩
  | queryType => ⟨"query must be a string", some "query"⟩
  | queryEmpty => ⟨"query must not be empty", some "query"⟩
  | queryLength most =>
    ⟨"query must be at most " ++ String.ofList (Text.natDigits most) ++ " characters",
      some "query"⟩
  | clientId => ⟨"clientId must be a non-empty string", some "clientId"⟩
  | jobId => ⟨"jobId does not match the delivered job", some "jobId"⟩

end Violation

/-- The query of a payload without the blanks around it. -/
def checkQuery (maxLength : Nat) (payload : Json) : Except Violation String :=
  match payload.get? "query" with
  | some (.string s) =>
    let query := Text.trim s
    if query.isEmpty then .error .queryEmpty
    else if maxLength < query.length then .error (.queryLength maxLength)
    else .ok query
  | _ => .error .queryType

/-- The client of a payload without the blanks around it. -/
def checkClientId (payload : Json) : Except Violation String :=
  match payload.get? "clientId" with
  | some (.string s) =>
    let clientId := Text.trim s
    if clientId.isEmpty then .error .clientId else .ok clientId
  | _ => .error .clientId

/-- A payload may name its job, but no other. -/
def checkJobId (jobId : String) (payload : Json) : Except Violation Unit :=
  match payload.get? "jobId" with
  | none => .ok ()
  | some (.string s) => if s = jobId then .ok () else .error .jobId
  | some _ => .error .jobId

/-- The request of a payload. -/
def check (maxLength : Nat) (jobId : String) (payload : Json) : Except Violation JobRequest := do
  match payload with
  | .object _ =>
    let query ← checkQuery maxLength payload
    let clientId ← checkClientId payload
    checkJobId jobId payload
    .ok ⟨jobId, query, clientId⟩
  | _ => .error .notObject

/-- The request that a job carries, or why it carries none. -/
def validate (maxLength : Nat) (job : Job) : Except ValidationError JobRequest :=
  (check maxLength job.id job.data).mapError Violation.toError

end Validation

end JobQueue
