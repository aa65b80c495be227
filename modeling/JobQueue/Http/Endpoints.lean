import JobQueue.DeadLetter.Log
import JobQueue.Health
import JobQueue.Http.Form
import JobQueue.Http.Request

/-! The endpoints of a worker process: liveness and readiness, metrics, and the dead letters of its
queue in pages. -/

namespace JobQueue.Http

/-! ### Pages of dead letters -/

/-- Which entries are asked for. -/
structure PageQuery where
  start : Option Int
  stop : Option Int
  deriving DecidableEq, Repr

inductive PageQueryFault where
  | duplicate (name : String)
  | numeral (cause : Text.NumeralFault)
  deriving DecidableEq, Repr

namespace PageQueryFault

def message : PageQueryFault → String
  | duplicate name => "duplicate field `" ++ name ++ "`"
  | numeral cause => cause.message

end PageQueryFault

namespace PageQuery

def empty : PageQuery :=
  ⟨none, none⟩

/-- The value of a field that must not have one yet. -/
def readField (name : String) (earlier : Option Int) (value : String) :
    Except PageQueryFault (Option Int) :=
  match earlier with
  | some _ => .error (.duplicate name)
  | none => ((Text.readSigned value).mapError .numeral).map some

/-- Adds the pairs of a form. Names other than the two fields are passed over. -/
def addPairs (query : PageQuery) : List (String × String) → Except PageQueryFault PageQuery
  | [] => .ok query
  | (name, value) :: rest =>
    if name = "start" then do
      let start ← readField name query.start value
      addPairs { query with start } rest
    else if name = "stop" then do
      let stop ← readField name query.stop value
      addPairs { query with stop } rest
    else addPairs query rest

def ofText (query : String) : Except PageQueryFault PageQuery :=
  addPairs empty (Form.pairs query)

/-- How many entries a page has unless its end is given. -/
def defaultSize : Int := 100

def first (query : PageQuery) : Int :=
  query.start.getD 0

/-- The last index of the page. -/
def last (query : PageQuery) : Int :=
  query.stop.getD (min (query.first + (defaultSize - 1)) Word.signedMax64)

end PageQuery

/-- The page as it is sent: how many entries there are in all, and those of the page. -/
def pageText (count : Nat) (entries : List DeadLetterEntry) : String :=
  "\x7b\"count\":" ++ String.ofList (Text.natDigits count) ++ ",\"entries\":["
    ++ String.intercalate "," (entries.map DeadLetterEntry.codec.text) ++ "]\x7d"

/-- A page of the log, with one command for the count and one for the entries. -/
def page (config : QueueConfig) (query : PageQuery) :
    Program (Except StoreError (Nat × List DeadLetterEntry)) := do
  match ← DeadLetterLog.count config with
  | .error error => return .error error
  | .ok count =>
    match ← DeadLetterLog.entries config query.first query.last with
    | .error error => return .error error
    | .ok entries => return .ok (count, entries)

def deadLetters (config : QueueConfig) (query : String) : Program Response := do
  match PageQuery.ofText query with
  | .error fault =>
    return .plain 400 ("Failed to deserialize query string: " ++ fault.message)
  | .ok query =>
    match ← page config query with
    | .ok (count, entries) => return .json (pageText count entries)
    | .error _ => return .plain 503 "failed to read dead-letter entries"

/-! ### Routes -/

inductive Route where
  | index | readiness | liveness | metrics | deadLetters
  deriving DecidableEq, Repr

def Route.ofPath? : String → Option Route
  | "/" => some .index
  | "/_readiness" => some .readiness
  | "/_liveness" => some .liveness
  | "/metrics" => some .metrics
  | "/dead-letter" => some .deadLetters
  | _ => none

/-- What the endpoints show. -/
structure Endpoints where
  queue : QueueConfig
  health : HealthRegistry
  /-- The text of the counts, if they are recorded. -/
  metrics : Option String

namespace Endpoints

variable (endpoints : Endpoints)

def liveness : Program Response := do
  let now ← Program.reportTime
  let status := if endpoints.health.isHealthy now then 200 else 500
  return .plain status (endpoints.health.text now)

/-- The response to a request that reads. -/
def read (query : String) : Route → Program Response
  | .index => return .plain 200 "job worker"
  | .readiness => return .plain 200 "job worker"
  | .liveness => endpoints.liveness
  | .metrics => return .plain 200 (endpoints.metrics.getD "no metrics recorder installed")
  | .deadLetters => Http.deadLetters endpoints.queue query

def respond (request : Request) : Program Response :=
  match Route.ofPath? request.path with
  | none => return .notFound
  | some route =>
    if request.method = "GET" then endpoints.read request.query route
    else if request.method = "HEAD" then return (← endpoints.read request.query route).head
    else return .methodNotAllowed "GET,HEAD"

/-- Responds to a request and counts it. -/
def serve (request : Request) : Program Response := do
  let response ← endpoints.respond request
  Program.perform (.count (.request .answered request.method request.path response.status))
  Program.perform (.count (.request .timed request.method request.path response.status))
  return response

end Endpoints

end JobQueue.Http
