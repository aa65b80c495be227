import JobQueue.Clock
import JobQueue.Text.Escaped

/-! Health: components report how they are, and the process is healthy if all of them reported so not
long ago. Reports are queued and applied later. Times are in nanoseconds since the start of 1970. -/

namespace JobQueue

inductive HealthStatus where
  /-- Nothing was reported yet. -/
  | starting
  | healthyUntil (deadline : Int)
  | unhealthy
  /-- The last report has expired. -/
  | stalled
  deriving DecidableEq, Repr

namespace HealthStatus

/-- Healthy for a span from a reading of the wall clock. -/
def healthyFor (reading : Int) (span : Time.Span) : Except Panic HealthStatus := do
  let deadline := (← Clock.reportTime reading) + span.nanos
  if Clock.isWritten deadline then .ok (.healthyUntil deadline) else .error .dateOverflow

def isHealthy (now : Int) : HealthStatus → Bool
  | healthyUntil deadline => now < deadline
  | _ => false

/-- How a status that was reported shows at `now`. -/
def shownAt (now : Int) : HealthStatus → HealthStatus
  | healthyUntil deadline => if now < deadline then healthyUntil deadline else stalled
  | status => status

def text : HealthStatus → String
  | starting => "Starting"
  | healthyUntil deadline =>
    "HealthyUntil(" ++ String.ofList (Time.Moment.ofEpochNanos deadline).stamp ++ ")"
  | unhealthy => "Unhealthy"
  | stalled => "Stalled"

end HealthStatus

structure HealthReport where
  component : String
  status : HealthStatus
  deriving DecidableEq, Repr

/-- The components in the order of their first reports, and the reports not yet applied, the oldest
first. -/
structure HealthRegistry where
  components : List (String × HealthStatus)
  queued : List HealthReport
  deriving Repr

/-- What a component holds to report, with the span for which it is healthy after that. -/
structure HealthHandle where
  component : String
  deadline : Time.Span
  deriving DecidableEq, Repr

namespace HealthRegistry

def empty : HealthRegistry :=
  ⟨[], []⟩

/-- How many reports can be queued. -/
def capacity : Nat := 16

def isFull (registry : HealthRegistry) : Bool :=
  capacity ≤ registry.queued.length

def enqueue (registry : HealthRegistry) (report : HealthReport) : HealthRegistry :=
  { registry with queued := registry.queued ++ [report] }

/-- The components after a report. -/
def insert (report : HealthReport) :
    List (String × HealthStatus) → List (String × HealthStatus)
  | [] => [(report.component, report.status)]
  | (name, status) :: rest =>
    if name = report.component then (name, report.status) :: rest
    else (name, status) :: insert report rest

/-- Applies all queued reports. -/
def applyQueued (registry : HealthRegistry) : HealthRegistry :=
  ⟨registry.queued.foldl (fun components report => insert report components) registry.components,
    []⟩

/-- How the components show at `now`. -/
def shownAt (registry : HealthRegistry) (now : Int) : List (String × HealthStatus) :=
  registry.components.map fun (name, status) => (name, status.shownAt now)

/-- Whether there are components and all of them are healthy. -/
def isHealthy (registry : HealthRegistry) (now : Int) : Bool :=
  !registry.components.isEmpty && registry.components.all fun (_, status) => status.isHealthy now

def componentText (component : String × HealthStatus) : String :=
  Text.escaped component.1 ++ ": " ++ component.2.text

/-- The state of the process for display. -/
def text (registry : HealthRegistry) (now : Int) : String :=
  "HealthStatus \x7b healthy: " ++ (if registry.isHealthy now then "true" else "false")
    ++ ", components: \x7b"
    ++ String.intercalate ", " ((registry.shownAt now).map componentText) ++ "\x7d \x7d"

end HealthRegistry

end JobQueue
