import JobQueue.Host
import JobQueue.Proofs.Queue.Alone
import JobQueue.Proofs.Trace

/-! How many jobs a worker has at once. A host is watched turn by turn, with a log of what its worker takes
off the queue, what it starts, and what has ended. Every job that was started holds a permit until it
has ended, whatever comes of it, and the one job that waits for a permit is the last one taken off the
queue. -/

namespace JobQueue

open Time (Duration)

/-- What a program waits with is what it leads to. -/
theorem Program.leads_of_waiting {α : Type} {p rest : Program α} {world world' : World} {delay : Nat}
    (h : p.runUntilDelay world = (world', .waiting delay rest)) : ∃ deeds, p.Leads deeds rest := by
  induction p generalizing world with
  | done a => cases h
  | panic p => cases h
  | step e next ih =>
    have hfirst : ∀ a, (step e next).Leads [⟨e, a⟩] (next a) := fun a => .step a .refl
    rw [runUntilDelay] at h
    split at h
    next after a _ =>
      split at h
      next =>
        obtain ⟨deeds, hdeeds⟩ := ih a h
        exact ⟨_, (hfirst a).trans hdeeds⟩
      next =>
        cases h
        exact ⟨_, hfirst a⟩
    next => cases h

/-! ### Workloads -/

/-- A worker with the jobs that it has started. -/
structure Workload where
  worker : Worker
  running : List RunningJob
  /-- How many jobs were started so far. -/
  started : Nat

/-- The job that a worker has reserved and not started. -/
def WorkerStage.held : WorkerStage → Option ReservedJob
  | holding reserved => some reserved
  | _ => none

theorem WorkerStage.start_eq (config : QueueConfig) :
    start config = .idle ∨ start config = .panicked .tooManyPermits := by
  unfold start
  split
  · exact .inl rfl
  · exact .inr rfl

/-- A worker starts without a job. -/
theorem WorkerStage.held_start (config : QueueConfig) : (start config).held = none := by
  obtain hstage | hstage := start_eq config <;> rw [hstage] <;> rfl

namespace Host

/-- The workload of the worker of a host, if there is one. -/
def workload? (host : Host) : Option Workload :=
  host.worker.map fun worker => ⟨worker, host.running, host.started⟩

@[simp] theorem workload?_wake (host : Host) (task : Task) : (host.wake task).workload? = host.workload? := by
  unfold wake
  split <;> rfl

@[simp] theorem workload?_report (host : Host) (report : HealthReport) :
    (host.report report).workload? = host.workload? :=
  workload?_wake { host with health := host.health.enqueue report } .reporter

@[simp] theorem workload?_applyReports (host : Host) : host.applyReports.workload? = host.workload? := by
  simp only [applyReports]
  split
  · exact workload?_wake { host with health := host.health.applyQueued } .worker
  · rfl

end Host

/-! ### The log of a worker -/

/-- What becomes of the jobs of a worker. -/
inductive WorkerEvent where
  | dequeued (reserved : ReservedJob)
  /-- A job was given a permit and a task of its own, which has a number. -/
  | started (number : Nat) (reserved : ReservedJob)
  /-- A task is over, in whichever way, and has given its permit back. -/
  | ended (number : Nat)

namespace WorkerEvent

def dequeued? : WorkerEvent → Option ReservedJob
  | dequeued reserved => some reserved
  | _ => none

def started? : WorkerEvent → Option (Nat × ReservedJob)
  | started number reserved => some (number, reserved)
  | _ => none

def ended? : WorkerEvent → Option Nat
  | ended number => some number
  | _ => none

end WorkerEvent

namespace Host

variable (host : Host)

/-- What a step of the loop of a worker means for its jobs. -/
def workerEvent? (worker : Worker) : Option WorkerEvent :=
  match worker.stage with
  | .polling _ =>
    match (Queue.poll worker.consumer.queue).run.run host.world with
    | (_, .ok (.ok (some reserved))) => some (.dequeued reserved)
    | _ => none
  | .holding reserved =>
    match worker.permits with
    | 0 => none
    | _ + 1 => some (.started host.started reserved)
  | _ => none

/-- What the turn of a job means. -/
def jobEvent? (number : Nat) : Option WorkerEvent :=
  match host.running.find? fun job => job.number == number with
  | none => none
  | some job =>
    match job.rest.runUntilDelay host.world with
    | (_, .waiting _ _) => none
    | _ => some (.ended number)

/-- What the next turn of a host means for the jobs of its worker. -/
def event? : Option WorkerEvent :=
  match host.ready with
  | .worker :: _ => host.worker.bind host.workerEvent?
  | .job number :: _ => host.jobEvent? number
  | _ => none

end Host

/-- What a turn can do with a workload. -/
inductive Workload.Change (load : Workload) : Workload → Option WorkerEvent → Prop where
  /-- The worker at most moves to another stage. -/
  | moves (stage : WorkerStage) (hheld : stage.held = load.worker.stage.held) :
      Change load { load with worker := { load.worker with stage } } none
  | dequeues (reserved : ReservedJob) (hheld : load.worker.stage.held = none) :
      Change load { load with worker := { load.worker with stage := .holding reserved } }
        (some (.dequeued reserved))
  | starts (reserved : ReservedJob) (left : Nat) (hstage : load.worker.stage = .holding reserved)
      (hpermits : load.worker.permits = left + 1) :
      Change load
        { worker := { load.worker with permits := left, stage := .idle }
          running := load.running ++ [⟨load.started, load.worker.consumer.run reserved⟩]
          started := load.started + 1 }
        (some (.started load.started reserved))
  /-- A task goes on until it has to wait. -/
  | waits (job : RunningJob) (rest : Program (Except QueueError Unit)) (deeds : List Deed)
      (hjob : job ∈ load.running) (hleads : job.rest.Leads deeds rest) :
      Change load
        { load with running := load.running.map fun other =>
            if other.number = job.number then ⟨job.number, rest⟩ else other }
        none
  | ends (job : RunningJob) (hjob : job ∈ load.running) :
      Change load
        { load with
          worker := { load.worker with permits := load.worker.permits + 1 }
          running := load.running.filter fun other => other.number ≠ job.number }
        (some (.ended job.number))

namespace Host

variable {host host' : Host} {load : Workload}

theorem workload?_eq_some : host.workload? = some load ↔
    host.worker = some load.worker ∧ host.running = load.running ∧ host.started = load.started := by
  unfold workload?
  cases hworker : host.worker with
  | none => simp
  | some worker =>
    obtain ⟨worker', running, started⟩ := load
    simp

theorem workload?_finish {job : RunningJob} (hload : host.workload? = some load) :
    (host.finish job.number).workload? = some
      { load with
        worker := { load.worker with permits := load.worker.permits + 1 }
        running := load.running.filter fun other => other.number ≠ job.number } := by
  obtain ⟨hworker, hrunning, hstarted⟩ := workload?_eq_some.1 hload
  simp only [finish, hworker, hrunning]
  split
  · rw [workload?_wake, workload?_eq_some]
    exact ⟨rfl, rfl, hstarted⟩
  · exact workload?_eq_some.2 ⟨rfl, rfl, hstarted⟩

theorem workload?_start (reserved : ReservedJob) (hload : host.workload? = some load) :
    (host.start load.worker reserved).workload? = some
      { load with
        running := load.running ++ [⟨load.started, load.worker.consumer.run reserved⟩]
        started := load.started + 1 } := by
  obtain ⟨hworker, hrunning, hstarted⟩ := workload?_eq_some.1 hload
  rw [start, workload?_wake, workload?_eq_some, hrunning, hstarted]
  exact ⟨hworker, rfl, rfl⟩

theorem workload?_moveTo (worker : Worker) (stage : WorkerStage) (hload : host.workload? = some load) :
    (host.moveTo worker stage).workload? = some { load with worker := { worker with stage } } := by
  obtain ⟨-, hrunning, hstarted⟩ := workload?_eq_some.1 hload
  exact workload?_eq_some.2 ⟨rfl, hrunning, hstarted⟩

/-- What the turn of a job can do with a workload. -/
theorem runJob_change (number : Nat) (hload : host.workload? = some load) :
    ∃ load', (host.runJob number).workload? = some load' ∧ load.Change load' (host.jobEvent? number) := by
  obtain ⟨hworker, hrunning, hstarted⟩ := workload?_eq_some.1 hload
  cases hfind : host.running.find? fun job => job.number == number with
  | none =>
    simp only [runJob, jobEvent?, hfind]
    exact ⟨load, hload, .moves load.worker.stage rfl⟩
  | some job =>
    have hjob : job ∈ load.running := hrunning ▸ List.mem_of_find?_eq_some hfind
    obtain rfl : job.number = number := by simpa using List.find?_some hfind
    have hends := fun world => @workload?_finish { host with world } load job hload
    simp only [runJob, jobEvent?, hfind]
    rcases hrun : job.rest.runUntilDelay host.world with ⟨world, _ | _ | ⟨delay, rest⟩⟩
    · exact ⟨_, hends world, .ends job hjob⟩
    · exact ⟨_, hends world, .ends job hjob⟩
    · obtain ⟨deeds, hleads⟩ := Program.leads_of_waiting hrun
      refine ⟨_, ?_, .waits job rest deeds hjob hleads⟩
      exact workload?_eq_some.2 ⟨hworker, congrArg _ hrunning, hstarted⟩

/-- The host after a turn. -/
def Turn.after : Turn → Host
  | goesOn host => host
  | waits host => host

/-- What a step of the loop of a worker can do with its workload. -/
theorem stepWorker_change (hload : host.workload? = some load) :
    ∃ load', (host.stepWorker load.worker).after.workload? = some load' ∧
      load.Change load' (host.workerEvent? load.worker) := by
  have hstays : load.Change load none := .moves load.worker.stage rfl
  have hmoves : ∀ {host' : Host} (stage : WorkerStage), host'.workload? = some load →
      stage.held = load.worker.stage.held →
      ∃ load', (host'.moveTo load.worker stage).workload? = some load' ∧ load.Change load' none :=
    fun stage hload' hheld => ⟨_, workload?_moveTo _ stage hload', .moves stage hheld⟩
  unfold stepWorker workerEvent?
  cases hstage : load.worker.stage with
  | idle =>
    dsimp only
    split <;> exact hmoves _ hload (by rw [hstage]; rfl)
  | waiting due =>
    dsimp only
    split
    · exact hmoves _ hload (by rw [hstage]; rfl)
    · exact ⟨load, hload, hstays⟩
  | reporting due =>
    dsimp only
    split
    · exact ⟨load, hload, hstays⟩
    · split
      next status _ => exact hmoves _ ((workload?_report ..).trans hload) (by rw [hstage]; rfl)
      next => exact hmoves _ hload (by rw [hstage]; rfl)
  | polling due =>
    have hpolled : ∀ world : World, { host with world }.workload? = some load := fun _ => hload
    dsimp only
    rcases (Queue.poll load.worker.consumer.queue).run.run host.world with
      ⟨world, p | error | _ | reserved⟩
    · exact hmoves _ (hpolled world) (by rw [hstage]; rfl)
    · exact hmoves _ (hpolled world) (by rw [hstage]; rfl)
    · exact hmoves _ (hpolled world) (by rw [hstage]; rfl)
    · exact ⟨_, workload?_moveTo _ _ (hpolled world), .dequeues reserved (by rw [hstage]; rfl)⟩
  | holding reserved =>
    dsimp only
    cases hpermits : load.worker.permits with
    | zero => exact ⟨load, hload, hstays⟩
    | succ left =>
      have hstarted := (workload?_eq_some.1 hload).2.2
      rw [hstarted]
      exact ⟨_, workload?_moveTo _ _ (workload?_start reserved hload), .starts reserved left hstage hpermits⟩
  | failed error => exact ⟨load, hload, hstays⟩
  | panicked p => exact ⟨load, hload, hstays⟩

/-- All that a turn can do with a workload, with what the log says of it. -/
theorem change_of_step (hload : host.workload? = some load) (h : host.step = some host') :
    ∃ load', host'.workload? = some load' ∧ load.Change load' host.event? := by
  unfold step at h
  unfold event?
  split at h
  case h_1 => cases h
  case h_2 rest hready =>
    obtain rfl := Option.some.inj h
    simp only [hready]
    exact ⟨load, (workload?_applyReports _).trans hload, .moves load.worker.stage rfl⟩
  case h_3 number rest hready =>
    obtain rfl := Option.some.inj h
    simp only [hready]
    exact @runJob_change { host with ready := rest } load number hload
  case h_4 rest hready =>
    obtain ⟨load', hload', hchange⟩ := stepWorker_change hload
    have hworker := (workload?_eq_some.1 hload).1
    simp only [hready, hworker, Option.bind_some] at h ⊢
    refine ⟨load', ?_, hchange⟩
    cases hturn : host.stepWorker load.worker with
    | goesOn after | waits after =>
      rw [hturn] at h hload'
      obtain rfl := Option.some.inj h
      exact hload'

end Host

/-! ### Logs that account for a workload -/

/-- What became of the jobs of a worker, the first event first. -/
abbrev WorkerLog := List WorkerEvent

namespace WorkerLog

variable (log : WorkerLog) (event : WorkerEvent)

/-- The jobs that were taken off the queue. -/
def dequeued : List ReservedJob :=
  log.filterMap WorkerEvent.dequeued?

/-- The jobs that were given permits, with the numbers of their tasks. -/
def started : List (Nat × ReservedJob) :=
  log.filterMap WorkerEvent.started?

/-- The numbers of the tasks that are over. -/
def ended : List Nat :=
  log.filterMap WorkerEvent.ended?

@[simp] theorem dequeued_concat : dequeued (log ++ [event]) = dequeued log ++ event.dequeued?.toList := by
  cases event <;> simp [dequeued, WorkerEvent.dequeued?]

@[simp] theorem started_concat : started (log ++ [event]) = started log ++ event.started?.toList := by
  cases event <;> simp [started, WorkerEvent.started?]

@[simp] theorem ended_concat : ended (log ++ [event]) = ended log ++ event.ended?.toList := by
  cases event <;> simp [ended, WorkerEvent.ended?]

end WorkerLog

/-- A task is on its way through handling and settling the job that it was started with. -/
def Consumer.Serves (consumer : Consumer) (log : WorkerLog) (job : RunningJob) : Prop :=
  ∃ reserved deeds q, (job.number, reserved) ∈ log.started ∧ (consumer.run reserved).Leads deeds q ∧
    (job.rest = q ∨ ∃ p, job.rest = .panic p)

theorem Consumer.Serves.concat {consumer : Consumer} {log : WorkerLog} {job : RunningJob}
    (h : consumer.Serves log job) (event : WorkerEvent) : consumer.Serves (log ++ [event]) job := by
  obtain ⟨reserved, deeds, q, hstarted, hrest⟩ := h
  refine ⟨reserved, deeds, q, ?_, hrest⟩
  rw [WorkerLog.started_concat]
  exact List.mem_append_left _ hstarted

/-- All permits are free or held by tasks, tasks were started in the order in which their jobs were
dequeued, and each of them is running or has ended once. -/
structure Workload.Sound (consumer : Consumer) (load : Workload) (log : WorkerLog) : Prop where
  ours : load.worker.consumer = consumer
  permits : load.worker.permits + load.running.length = consumer.queue.maxConcurrency
  order : log.dequeued = log.started.map Prod.snd ++ load.worker.stage.held.toList
  numbers : log.started.map Prod.fst = List.range load.started
  tasks : (load.running.map RunningJob.number ++ log.ended).Perm (List.range load.started)
  serves : ∀ job ∈ load.running, consumer.Serves log job

namespace Workload

variable {consumer : Consumer} {worker : Worker} {load load' : Workload} {left right : List RunningJob}
  {job : RunningJob} {number : Nat} {log : WorkerLog}

/-- The other running tasks have other numbers. -/
theorem Sound.exists_split (h : Sound consumer load log) (hjob : job ∈ load.running) :
    ∃ left right, load.running = left ++ job :: right ∧
      ∀ other ∈ left ++ right, other.number ≠ job.number := by
  have hnodup := (List.nodup_append.1 (h.tasks.nodup_iff.2 List.nodup_range)).1
  obtain ⟨left, right, hsplit⟩ := List.append_of_mem hjob
  refine ⟨left, right, hsplit, fun other hother => ?_⟩
  rw [hsplit, (List.perm_middle.map _).nodup_iff, List.map_cons, List.nodup_cons] at hnodup
  exact fun heq => hnodup.1 (heq ▸ List.mem_map_of_mem hother)

/-- A task that goes on, or panics, keeps its number and its permit. -/
theorem Sound.goes_on {rest : Program (Except QueueError Unit)}
    (h : Sound consumer ⟨worker, left ++ job :: right, number⟩ log)
    (hrest : (∃ deeds, job.rest.Leads deeds rest) ∨ ∃ p, rest = .panic p) :
    Sound consumer ⟨worker, left ++ ⟨job.number, rest⟩ :: right, number⟩ log := by
  have hserves := h.serves
  simp only [List.forall_mem_append, List.forall_mem_cons] at hserves
  obtain ⟨hleft, ⟨reserved, deeds, q, hstarted, hleads, hq⟩, hright⟩ := hserves
  refine ⟨h.ours, ?_, h.order, h.numbers, ?_, ?_⟩
  · simpa using h.permits
  · simpa using h.tasks
  simp only [List.forall_mem_append, List.forall_mem_cons]
  refine ⟨hleft, ?_, hright⟩
  obtain ⟨later, hlater⟩ | hpanic := hrest
  · obtain rfl | ⟨p, hp⟩ := hq
    · exact ⟨reserved, _, rest, hstarted, hleads.trans hlater, .inl rfl⟩
    · rw [hp] at hlater
      exact ⟨reserved, deeds, q, hstarted, hleads, .inr ⟨p, (Program.leads_panic hlater).2⟩⟩
  · exact ⟨reserved, deeds, q, hstarted, hleads, .inr hpanic⟩

theorem Sound.dequeues {reserved : ReservedJob} (h : Sound consumer load log)
    (hheld : load.worker.stage.held = none) :
    Sound consumer { load with worker := { load.worker with stage := .holding reserved } }
      (log ++ [.dequeued reserved]) where
  ours := h.ours
  permits := h.permits
  order := by
    have horder := h.order
    rw [hheld] at horder
    simpa [WorkerEvent.dequeued?, WorkerEvent.started?, WorkerStage.held] using horder
  numbers := by simpa [WorkerEvent.started?] using h.numbers
  tasks := by simpa [WorkerEvent.ended?] using h.tasks
  serves job hjob := (h.serves job hjob).concat _

theorem Sound.starts {reserved : ReservedJob} {free : Nat} (h : Sound consumer load log)
    (hstage : load.worker.stage = .holding reserved) (hpermits : load.worker.permits = free + 1) :
    Sound consumer
      { worker := { load.worker with permits := free, stage := .idle }
        running := load.running ++ [⟨load.started, load.worker.consumer.run reserved⟩]
        started := load.started + 1 }
      (log ++ [.started load.started reserved]) where
  ours := h.ours
  permits := by
    have hsum := h.permits
    rw [hpermits] at hsum
    simp only [List.length_append, List.length_singleton]
    omega
  order := by
    have horder := h.order
    rw [hstage] at horder
    simpa [WorkerEvent.dequeued?, WorkerEvent.started?, WorkerStage.held] using horder
  numbers := by
    rw [WorkerLog.started_concat, List.map_append, h.numbers, List.range_succ]
    rfl
  tasks := by
    have hsame : WorkerLog.ended (log ++ [WorkerEvent.started load.started reserved]) = log.ended := by
      simp [WorkerEvent.ended?]
    rw [hsame, List.map_append, List.range_succ, List.append_assoc]
    refine (List.perm_append_comm.append_left _).trans ?_
    rw [← List.append_assoc]
    exact h.tasks.append_right _
  serves job hjob := by
    obtain hold | hnew := List.mem_append.1 hjob
    · exact (h.serves job hold).concat _
    · obtain rfl := List.mem_singleton.1 hnew
      exact ⟨reserved, [], _, by simp [WorkerEvent.started?], h.ours ▸ .refl, .inl rfl⟩

/-- The task that is over is none of the others, and gives its permit back. -/
theorem Sound.ends (h : Sound consumer ⟨worker, left ++ job :: right, number⟩ log) :
    Sound consumer ⟨{ worker with permits := worker.permits + 1 }, left ++ right, number⟩
      (log ++ [.ended job.number]) where
  ours := h.ours
  permits := by
    have hsum := h.permits
    simp only [List.length_append, List.length_cons] at hsum ⊢
    omega
  order := by simpa [WorkerEvent.dequeued?, WorkerEvent.started?] using h.order
  numbers := by simpa [WorkerEvent.started?] using h.numbers
  tasks := by
    refine .trans ?_ h.tasks
    rw [WorkerLog.ended_concat, ← List.append_assoc]
    refine List.perm_append_comm.trans ?_
    simpa [WorkerEvent.ended?] using List.perm_middle.symm
  serves other hother := by
    refine (h.serves other ?_).concat _
    simp only [List.mem_append, List.mem_cons] at hother ⊢
    exact hother.imp_right .inr

/-- Every turn keeps the log true. -/
theorem Sound.change {event : Option WorkerEvent} (h : Sound consumer load log)
    (hchange : load.Change load' event) : Sound consumer load' (log ++ event.toList) := by
  cases hchange with
  | moves stage hheld =>
    rw [Option.toList_none, List.append_nil]
    exact ⟨h.ours, h.permits, by rw [h.order, hheld], h.numbers, h.tasks, h.serves⟩
  | dequeues reserved hheld => exact h.dequeues hheld
  | starts reserved free hstage hpermits => exact h.starts hstage hpermits
  | waits job rest deeds hjob hleads =>
    obtain ⟨left, right, hsplit, hothers⟩ := h.exists_split hjob
    obtain ⟨worker, running, number⟩ := load
    obtain rfl : running = left ++ job :: right := hsplit
    have hsame : ∀ jobs : List RunningJob, (∀ other ∈ jobs, other.number ≠ job.number) →
        (jobs.map fun other => if other.number = job.number then ⟨job.number, rest⟩ else other) = jobs :=
      fun jobs hjobs => (List.map_congr_left fun other hother => if_neg (hjobs other hother)).trans
        (List.map_id jobs)
    rw [List.forall_mem_append] at hothers
    rw [Option.toList_none, List.append_nil, List.map_append, List.map_cons, hsame left hothers.1,
      hsame right hothers.2, if_pos rfl]
    exact h.goes_on (.inl ⟨deeds, hleads⟩)
  | ends job hjob =>
    obtain ⟨left, right, hsplit, hothers⟩ := h.exists_split hjob
    obtain ⟨worker, running, number⟩ := load
    obtain rfl : running = left ++ job :: right := hsplit
    have hkept : ((left ++ job :: right).filter fun other => other.number ≠ job.number) = left ++ right := by
      rw [List.filter_append, List.filter_cons_of_neg (by simp), ← List.filter_append]
      exact List.filter_eq_self.2 fun other hother => decide_eq_true (hothers other hother)
    rw [hkept]
    exact h.ends

end Workload

/-! ### Runs of a worker -/

/-- A host with the log of its worker. -/
structure Watched where
  host : Host
  log : WorkerLog

namespace Watched

/-- A worker that was just started. -/
def start (world : World) (consumer : Consumer) (pollInterval : Duration) (handle : HealthHandle) : Watched :=
  ⟨(Host.new world).startWorker consumer pollInterval handle, []⟩

/-- One turn, or something that goes on around the turns. -/
inductive Step : Watched → Watched → Prop where
  | turns {host host' log} (h : host.step = some host') : Step ⟨host, log⟩ ⟨host', log ++ host.event?.toList⟩
  /-- A task does something in between, and is answered in any way. -/
  | acts {host log left right} (n : Nat) (e : Effect) (next : e.Answer → Program (Except QueueError Unit))
      (a : e.Answer) (h : host.running = left ++ ⟨n, .step e next⟩ :: right) :
      Step ⟨host, log⟩ ⟨{ host with running := left ++ ⟨n, next a⟩ :: right }, log⟩
  | breaks {host log left right} (n : Nat) (e : Effect) (next : e.Answer → Program (Except QueueError Unit))
      (p : Panic) (h : host.running = left ++ ⟨n, .step e next⟩ :: right) :
      Step ⟨host, log⟩ ⟨{ host with running := left ++ ⟨n, .panic p⟩ :: right }, log⟩
  /-- Time passes, others use the stores, health is reported, and tasks are woken in any order. -/
  | surroundings {host log} (world : World) (health : HealthRegistry) (ready : List Task)
      (timers : List Timer) : Step ⟨host, log⟩ ⟨{ host with world, health, ready, timers }, log⟩

/-- Any number of steps. -/
abbrev Run : Watched → Watched → Prop :=
  Relation.ReflTransGen Step

/-- The host has a worker for a consumer, and the log accounts for its workload. -/
def Sound (consumer : Consumer) (w : Watched) : Prop :=
  ∃ load, w.host.workload? = some load ∧ load.Sound consumer w.log

variable {world : World} {consumer : Consumer} {pollInterval : Duration} {handle : HealthHandle}
  {w w' : Watched}

theorem sound_start : (start world consumer pollInterval handle).Sound consumer := by
  refine ⟨⟨⟨consumer, pollInterval, handle, .start consumer.queue, consumer.queue.maxConcurrency⟩, [], 0⟩,
    ?_, ?_⟩
  · exact Host.workload?_wake _ _
  · exact ⟨rfl, rfl, by rw [WorkerStage.held_start]; rfl, rfl, .refl _, by simp⟩

/-- A task that goes on in between keeps all of this. -/
theorem Sound.goes_on {host : Host} {log : WorkerLog} {left right : List RunningJob} {job : RunningJob}
    {rest : Program (Except QueueError Unit)} (h : Sound consumer ⟨host, log⟩)
    (hrunning : host.running = left ++ job :: right)
    (hrest : (∃ deeds, job.rest.Leads deeds rest) ∨ ∃ p, rest = .panic p) :
    Sound consumer ⟨{ host with running := left ++ ⟨job.number, rest⟩ :: right }, log⟩ := by
  obtain ⟨⟨worker, running, number⟩, hload, hsound⟩ := h
  obtain ⟨hworker, hsame, hnumber⟩ := Host.workload?_eq_some.1 hload
  obtain rfl : left ++ job :: right = running := hrunning.symm.trans hsame
  exact ⟨⟨worker, left ++ ⟨job.number, rest⟩ :: right, number⟩,
    Host.workload?_eq_some.2 ⟨hworker, rfl, hnumber⟩, hsound.goes_on hrest⟩

theorem Sound.step (h : w.Sound consumer) (hstep : Step w w') : w'.Sound consumer := by
  cases hstep with
  | turns hturn =>
    obtain ⟨load, hload, hsound⟩ := h
    obtain ⟨load', hload', hchange⟩ := Host.change_of_step hload hturn
    exact ⟨load', hload', hsound.change hchange⟩
  | acts n e next a hrunning => exact h.goes_on hrunning (.inl ⟨_, .step a .refl⟩)
  | breaks n e next p hrunning => exact h.goes_on hrunning (.inr ⟨p, rfl⟩)
  | surroundings world health ready timers => exact h

theorem Sound.of_run (h : Run (start world consumer pollInterval handle) w) : w.Sound consumer := by
  induction h with
  | refl => exact sound_start
  | tail _ hstep ih => exact ih.step hstep

/-- A worker never has more tasks than its queue allows, each with a permit of its own, and reserves at most
one job more. It gives permits to jobs in the order in which it dequeued them, and starts one task for
each, which handles and settles that job and ends once. -/
theorem keeps_to_concurrency (h : Run (start world consumer pollInterval handle) w) :
    ∃ worker, w.host.worker = some worker ∧
      w.host.running.length ≤ consumer.queue.maxConcurrency ∧
      worker.permits + w.host.running.length = consumer.queue.maxConcurrency ∧
      worker.stage.held.toList.length + w.host.running.length ≤ consumer.queue.maxConcurrency + 1 ∧
      w.log.dequeued = w.log.started.map Prod.snd ++ worker.stage.held.toList ∧
      w.log.started.map Prod.fst = List.range w.host.started ∧
      (w.host.running.map RunningJob.number ++ w.log.ended).Perm (List.range w.host.started) ∧
      ∀ job ∈ w.host.running, consumer.Serves w.log job := by
  obtain ⟨load, hload, hsound⟩ := Sound.of_run h
  obtain ⟨hworker, hrunning, hstarted⟩ := Host.workload?_eq_some.1 hload
  rw [hrunning, hstarted]
  have hpermits := hsound.permits
  have hheld : load.worker.stage.held.toList.length ≤ 1 := by
    cases load.worker.stage.held <;> simp
  exact ⟨load.worker, hworker, by omega, hpermits, by omega, hsound.order, hsound.numbers, hsound.tasks,
    hsound.serves⟩

/-! ### A fixed run -/

/-- Takes turns until no task can go on, at most a number of them. -/
def takeTurns : Nat → Watched → Watched
  | 0, w => w
  | turns + 1, w =>
    match w.host.step with
    | none => w
    | some host => takeTurns turns ⟨host, w.log ++ w.host.event?.toList⟩

theorem run_takeTurns (turns : Nat) (w : Watched) : Run w (takeTurns turns w) := by
  induction turns generalizing w with
  | zero => exact .refl
  | succ turns ih =>
    unfold takeTurns
    split
    next => exact .refl
    next host hstep => exact .head (.turns hstep) (ih _)

/-- Two jobs wait, whose processing takes a second each. -/
def busyWorld : World :=
  let world := World.new [⟨"q", 1000000000, none⟩] false 0
  QueueConfig.sample.afterPush
    (QueueConfig.sample.afterPush world (Job.codec.text .sample))
    (Job.codec.text { Job.sample with id := "j2" })

/-- Some time passes. -/
def passes (w : Watched) (nanos : Nat) : Watched :=
  ⟨w.host.advance nanos, w.log⟩

theorem run_passes (w : Watched) (nanos : Nat) : Run w (w.passes nanos) :=
  .single (.surroundings ..)

/-- There is one permit for two jobs. While the first one is processed the second one is held back, and it is
started with the same permit once the first one has ended. -/
theorem sample_keeps_to_concurrency : ∃ (w : Watched) (worker : Worker),
    Run (start busyWorld ⟨.sample, .ofSeconds 60, Validation.defaultMaxQueryLength⟩ (.ofSeconds 1)
      ⟨"worker", .ofMillis 1000⟩) w ∧
    w.host.worker = some worker ∧ w.log.dequeued.length = 2 ∧ w.log.started.map Prod.fst = [0, 1] ∧
    w.log.ended = [0] ∧ w.host.running.map RunningJob.number = [1] ∧ worker.permits = 0 := by
  let consumer : Consumer := ⟨.sample, .ofSeconds 60, Validation.defaultMaxQueryLength⟩
  let first := takeTurns 20 (start busyWorld consumer (.ofSeconds 1) ⟨"worker", .ofMillis 1000⟩)
  let second := takeTurns 20 (first.passes 1000000000)
  have hrun : Run (start busyWorld consumer (.ofSeconds 1) ⟨"worker", .ofMillis 1000⟩) second :=
    ((run_takeTurns 20 _).trans (run_passes first 1000000000)).trans (run_takeTurns 20 _)
  have hstate : second.log.dequeued.length = 2 ∧ second.log.ended = [0] ∧
      second.host.running.map RunningJob.number = [1] ∧ second.host.started = 2 := by decide +kernel
  obtain ⟨hdequeued, hended, hrunning, hcount⟩ := hstate
  obtain ⟨worker, hworker, -, hpermits, -, -, hnumbers, -⟩ := keeps_to_concurrency hrun
  have hstarted : second.log.started.map Prod.fst = [0, 1] := by
    rw [hnumbers, hcount]
    rfl
  have hone : consumer.queue.maxConcurrency = 1 := rfl
  have hlength := congrArg List.length hrunning
  rw [List.length_map, List.length_singleton] at hlength
  exact ⟨second, worker, hrun, hworker, hdequeued, hstarted, hended, hrunning, by omega⟩

end Watched

end JobQueue
