import JobQueue.Http.Target

/-! Requests to an HTTP server, as far as it looks at them, and responses to them. -/

namespace JobQueue.Http

structure Request where
  method : String
  path : String
  query : String
  deriving DecidableEq, Repr

structure Response where
  status : Nat
  contentType : Option String
  /-- The methods that would have been served. -/
  allow : Option String
  body : String
  deriving DecidableEq, Repr

namespace Request

/-- Whether a character may stand in a method. -/
def isMethodChar (c : Char) : Bool :=
  c.isAlphanum || "!#$%&'*+-.^_|~".toList.contains c || c == '\x60'

/-- A request for a target. -/
def ofTarget? (method target : String) : Option Request :=
  if !method.isEmpty && method.toList.all isMethodChar then
    (Target.ofText? target).map fun target => ⟨method, target.path, target.query⟩
  else none

end Request

namespace Response

def plain (status : Nat) (body : String) : Response :=
  ⟨status, some "text/plain; charset=utf-8", none, body⟩

def json (body : String) : Response :=
  ⟨200, some "application/json", none, body⟩

def notFound : Response :=
  ⟨404, none, none, ""⟩

def methodNotAllowed (allow : String) : Response :=
  ⟨405, none, some allow, ""⟩

/-- The same response without its body. -/
def head (response : Response) : Response :=
  { response with body := "" }

end Response

end JobQueue.Http
