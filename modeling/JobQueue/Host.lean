import JobQueue.Worker
import JobQueue.World

/-! The host around a worker. Its tasks take turns on one thread, and a task goes on until it has
to wait. Times are in nanoseconds, but timers fire on whole milliseconds. -/

namespace JobQueue

open Time (Duration nanosPerMilli)

/-- The tasks of a host: the one that applies reports of health, the loop of the worker, and the
jobs in the order in which they were started. -/
inductive Task where
  | reporter
  | worker
  | job (number : Nat)
  deriving DecidableEq, Repr

structure Timer where
  /-- When the timer fires, in milliseconds. -/
  tick : Nat
  task : Task
  deriving DecidableEq, Repr

/-- A job that was started. -/
structure RunningJob where
  number : Nat
  rest : Program (Except QueueError Unit)

structure Host where
  world : World
  health : HealthRegistry
  worker : Option Worker
  running : List RunningJob
  /-- How many jobs were started so far. -/
  started : Nat
  /-- The tasks that can go on, in the order of their turns. -/
  ready : List Task
  /-- The timers, the first one to fire first. -/
  timers : List Timer

namespace Host

/-- A host that has just started in a world. -/
def new (world : World) : Host where
  world := world
  health := .empty
  worker := none
  running := []
  started := 0
  ready := []
  timers := []

/-! ### Turns -/

/-- Gives a task a turn after those that wait for theirs. -/
def wake (host : Host) (task : Task) : Host :=
  if task ∈ host.ready then host else { host with ready := host.ready ++ [task] }

/-- The millisecond at which a timer fires. -/
def tickOf (time : Nat) : Nat :=
  (time + nanosPerMilli - 1) / nanosPerMilli

/-- Whether a timer has nothing to wait for. -/
def isDue (host : Host) (time : Nat) : Bool :=
  tickOf time ≤ host.world.elapsed / nanosPerMilli

/-- Puts a timer after those that fire no later. -/
def insertTimer (timer : Timer) : List Timer → List Timer
  | [] => [timer]
  | first :: rest =>
    if first.tick ≤ timer.tick then first :: insertTimer timer rest else timer :: first :: rest

/-- Lets a task wait for a time. -/
def sleep (host : Host) (task : Task) (time : Nat) : Host :=
  { host with timers := insertTimer ⟨tickOf time, task⟩ host.timers }

/-- Gives a turn to the tasks whose timers have come due. -/
def fireTimers (host : Host) : Host :=
  let isDue (timer : Timer) : Bool := timer.tick ≤ host.world.elapsed / nanosPerMilli
  { host with
    ready := host.ready ++ (host.timers.takeWhile isDue).map Timer.task
    timers := host.timers.dropWhile isDue }

/-! ### Health -/

/-- Queues a report of health. -/
def report (host : Host) (report : HealthReport) : Host :=
  { host with health := host.health.enqueue report }.wake .reporter

/-- Applies the queued reports. A worker that waits to report can go on. -/
def applyReports (host : Host) : Host :=
  let host := { host with health := host.health.applyQueued }
  match host.worker.map Worker.stage with
  | some (.reporting _) => host.wake .worker
  | _ => host

/-! ### Jobs -/

/-- Starts a job with a permit of the worker. -/
def start (host : Host) (worker : Worker) (reserved : ReservedJob) : Host :=
  let job : RunningJob := ⟨host.started, worker.consumer.run reserved⟩
  { host with running := host.running ++ [job], started := host.started + 1 }.wake
    (.job job.number)

/-- Ends a job and gives its permit back. A worker that waits for a permit can go on. -/
def finish (host : Host) (number : Nat) : Host :=
  let running := host.running.filter fun (job : RunningJob) => job.number ≠ number
  let host := { host with running }
  match host.worker with
  | none => host
  | some worker =>
    let host :=
      { host with worker := some { worker with permits := worker.permits + 1 } }
    match worker.stage with
    | .holding _ => host.wake .worker
    | _ => host

/-- The turn of a job. -/
def runJob (host : Host) (number : Nat) : Host :=
  match host.running.find? fun job => job.number == number with
  | none => host
  | some job =>
    match job.rest.runUntilDelay host.world with
    | (world, .waiting delay rest) =>
      let running := host.running.map fun (job : RunningJob) =>
        if job.number = number then ⟨number, rest⟩ else job
      { host with world, running }.sleep (.job number) (world.elapsed + delay)
    | (world, _) => { host with world := world }.finish number

/-! ### The worker -/

/-- Whether a task can go on in its turn. -/
inductive Turn where
  | goesOn (host : Host)
  | waits (host : Host)

/-- Moves the loop of the worker to a stage. -/
def moveTo (host : Host) (worker : Worker) (stage : WorkerStage) : Host :=
  { host with worker := some { worker with stage := stage } }

/-- One step of the loop of a worker. -/
def stepWorker (host : Host) (worker : Worker) : Turn :=
  match worker.stage with
  | .idle =>
    if worker.pollInterval.nanos = 0 then .waits (host.moveTo worker (.panicked .zeroPeriod))
    else .goesOn (host.moveTo worker (.waiting host.world.elapsed))
  | .waiting due =>
    if host.isDue due then
      .goesOn (host.moveTo worker (.reporting (due + worker.pollInterval.nanos)))
    else .waits (host.sleep .worker due)
  | .reporting due =>
    if host.health.isFull then .waits host
    else match HealthStatus.healthyFor host.world.wall worker.health.deadline with
      | .ok status =>
        .goesOn ((host.report ⟨worker.health.component, status⟩).moveTo worker (.polling due))
      | .error p => .waits (host.moveTo worker (.panicked p))
  | .polling due =>
    match (Queue.poll worker.consumer.queue).run.run host.world with
    | (world, .ok (.ok (some reserved))) =>
      .goesOn ({ host with world := world }.moveTo worker (.holding reserved))
    | (world, .ok (.ok none)) =>
      .goesOn ({ host with world := world }.moveTo worker (.waiting due))
    | (world, .ok (.error error)) =>
      .waits ({ host with world := world }.moveTo worker (.failed error))
    | (world, .error p) => .waits ({ host with world := world }.moveTo worker (.panicked p))
  | .holding reserved =>
    match worker.permits with
    | 0 => .waits host
    | left + 1 =>
      .goesOn ((host.start worker reserved).moveTo { worker with permits := left } .idle)
  | .failed _ => .waits host
  | .panicked _ => .waits host

/-! ### Steps of a host -/

/-- One step of the task whose turn it is. -/
def step (host : Host) : Option Host :=
  match host.ready with
  | [] => none
  | .reporter :: rest => some { host with ready := rest }.applyReports
  | .job number :: rest => some ({ host with ready := rest }.runJob number)
  | .worker :: rest =>
    match host.worker with
    | none => some { host with ready := rest }
    | some worker =>
      match host.stepWorker worker with
      | .goesOn host => some host
      | .waits host => some { host with ready := host.ready.tail }

/-- Takes steps until no task can go on, at most a number of them. -/
def settle : Nat → Host → Host
  | 0, host => host
  | steps + 1, host =>
    match host.step with
    | none => host
    | some host => settle steps host

/-- How many steps are taken between two moments at most. -/
def stepLimit : Nat := 0x4000000000000000

/-- The host once no task can go on without time passing. -/
def settled (host : Host) : Host :=
  host.settle stepLimit

/-! ### From outside -/

/-- Runs a program in one turn. -/
def run {α : Type} (host : Host) (program : Program α) : Host × Except Panic α :=
  let (world, result) := program.run host.world
  ({ host with world }, result)

/-- Lets time pass in one jump. -/
def advance (host : Host) (nanos : Nat) : Host :=
  { host with world := host.world.advance nanos }.fireTimers

/-- Sets the wall clock, whose seconds since the start of 1970 are a signed word of 64 bits. -/
def setWall (host : Host) (seconds : Int) (nanos : Nat) : Host :=
  let wall := Int.bmod seconds Word.count64 * Time.nanosPerSecond + nanos
  { host with world := { host.world with wall } }

/-- Registers a component. -/
def register (host : Host) (handle : HealthHandle) : Host :=
  host.report ⟨handle.component, .starting⟩

/-- Reports that a component is healthy. -/
def reportHealthy (host : Host) (handle : HealthHandle) : Except Panic Host :=
  (HealthStatus.healthyFor host.world.wall handle.deadline).map fun status =>
    host.report ⟨handle.component, status⟩

/-- Starts a worker, registered under a handle. -/
def startWorker (host : Host) (consumer : Consumer) (pollInterval : Duration)
    (handle : HealthHandle) : Host :=
  { host.register handle with
    worker := some {
      consumer, pollInterval
      health := handle
      stage := .start consumer.queue
      permits := consumer.queue.maxConcurrency } }.wake .worker

end Host

end JobQueue
