import JobQueue.Program
import JobQueue.Store.Client

/-! What programs act on: the stores, the clocks, the processing service, and the counts. -/

namespace JobQueue

/-- How the processing service treats the requests with a certain query. -/
structure ServiceRule where
  query : String
  /-- How long it takes, in nanoseconds. -/
  delay : Nat
  error : Option String
  deriving DecidableEq, Repr

structure World where
  jobs : Client
  /-- The client of the dead letters, if they have a store of their own. -/
  deadLetters : Option Client
  /-- The wall clock, in nanoseconds since the start of 1970. -/
  wall : Int
  /-- The clock of timers and expiry, in nanoseconds. It never goes back. -/
  elapsed : Nat
  rules : List ServiceRule
  /-- What the service was asked, the last request first. -/
  requests : List JobRequest
  /-- What was counted, the last count first. -/
  counts : List Metric

namespace World

/-- A new world, in which nothing has happened. -/
def new (rules : List ServiceRule) (splitDeadLetters : Bool) (wall : Int) : World where
  jobs := .empty
  deadLetters := if splitDeadLetters then some .empty else none
  wall := wall
  elapsed := 0
  rules := rules
  requests := []
  counts := []

def client (world : World) : Site → Client
  | .jobs => world.jobs
  | .deadLetters => world.deadLetters.getD world.jobs

def setClient (world : World) (client : Client) : Site → World
  | .jobs => { world with jobs := client }
  | .deadLetters =>
    match world.deadLetters with
    | some _ => { world with deadLetters := some client }
    | none => { world with jobs := client }

def rule? (world : World) (request : JobRequest) : Option ServiceRule :=
  world.rules.find? fun rule => rule.query == request.query

/-- What the service answers. Requests without a rule succeed. -/
def answer (world : World) (request : JobRequest) : Except ProcessingError Unit :=
  match (world.rule? request).bind ServiceRule.error with
  | some message => .error ⟨message⟩
  | none => .ok ()

/-- How long an effect takes. -/
def delay (world : World) : Effect → Nat
  | .process request => ((world.rule? request).map ServiceRule.delay).getD 0
  | _ => 0

/-- What an effect gives back, and the world after it. -/
def perform (world : World) : (e : Effect) → World × Except Panic e.Answer
  | .command site c =>
    let (client, result) := (world.client site).run world.elapsed c
    (world.setClient client site, result)
  | .clock => (world, .ok world.wall)
  | .process request =>
    ({ world with requests := request :: world.requests }, .ok (world.answer request))
  | .count metric => ({ world with counts := metric :: world.counts }, .ok ())

/-- Lets time pass on all clocks. -/
def advance (world : World) (nanos : Nat) : World :=
  { world with wall := world.wall + nanos, elapsed := world.elapsed + nanos }

end World

/-- Where a program stands when it can go no further at once. -/
inductive Pause (α : Type) where
  | finished (a : α)
  | panicked (p : Panic)
  /-- The rest follows after a time in nanoseconds. -/
  | waiting (delay : Nat) (rest : Program α)

namespace Program

variable {α : Type}

/-- Runs a program to its end. -/
def run : Program α → World → World × Except Panic α
  | done a, world => (world, .ok a)
  | panic p, world => (world, .error p)
  | step e next, world =>
    match world.perform e with
    | (world, .ok a) => (next a).run world
    | (world, .error p) => (world, .error p)

/-- Runs a program up to the first effect that takes time. -/
def runUntilDelay : Program α → World → World × Pause α
  | done a, world => (world, .finished a)
  | panic p, world => (world, .panicked p)
  | step e next, world =>
    match world.perform e with
    | (after, .ok a) =>
      match world.delay e with
      | 0 => (next a).runUntilDelay after
      | delay + 1 => (after, .waiting (delay + 1) (next a))
    | (after, .error p) => (after, .panicked p)

end Program

end JobQueue
