import JobQueue.Proofs.Health.Reports
import JobQueue.Proofs.Queue.Poll
import JobQueue.Proofs.Worker.Concurrency
import JobQueue.Proofs.Worker.Effort

/-! How a worker that waits for jobs sifts a queue. Texts that cannot be read are skipped: they end among the
failed ones, and the wait goes on with the next poll. The worker has no permits here, so that every job for
which it waited is handed over. -/

namespace JobQueue

open Time (Duration nanosPerMilli)

/-! ### Texts -/

/-- How far the waits have come with the texts of a queue, the oldest first: earlier waits are done with some of
them, the last one has skipped others and may have given one, and the rest is to come. -/
structure Sifts (config : QueueConfig) (before store : Store) (returned : List ReservedJob)
    (held : Option ReservedJob) (past skipped rest : List String) : Prop where
  order : (config.waiting before).reverse = past ++ skipped ++ held.toList.map ReservedJob.envelope ++ rest
  read : returned = past.filterMap ReservedJob.ofEnvelope?
  unread : ∀ text ∈ skipped, ReservedJob.ofEnvelope? text = none
  last : ∀ reserved ∈ held, ReservedJob.ofEnvelope? reserved.envelope = some reserved
  places : config.Places rest.reverse
    (((returned ++ held.toList).map ReservedJob.envelope).reverse ++ config.active before)
    (config.failed before ++ (past ++ skipped).filter fun text => (ReservedJob.ofEnvelope? text).isNone)
    before store

namespace Sifts

variable {config : QueueConfig} {before store after : Store} {returned : List ReservedJob}
  {reserved : ReservedJob} {past skipped rest : List String}

theorem start (config : QueueConfig) (store : Store) :
    Sifts config store store [] none [] [] (config.waiting store).reverse := by
  refine ⟨rfl, rfl, nofun, nofun, ?_⟩
  have hplaces := QueueConfig.Places.refl config store
  rw [← (config.waiting store).reverse_reverse, ← List.append_nil (config.failed store)] at hplaces
  exact hplaces

/-- A poll hands over the oldest text. -/
theorem takes (h : Sifts config before store returned none past skipped rest)
    (hpolled : config.Polled store after (some reserved)) :
    ∃ rest', Sifts config before after returned (some reserved) past skipped rest' := by
  obtain ⟨horder, hreturned, hunread, -, hplaces⟩ := h
  cases hpolled with
  | takes left _ hwaiting hread hafter =>
    have hrest : rest = reserved.envelope :: left.reverse := by
      rw [hplaces.waiting] at hwaiting
      rw [← rest.reverse_reverse, hwaiting, List.reverse_concat]
    rw [hplaces.active, hplaces.failed] at hafter
    refine ⟨left.reverse, ?_, hreturned, hunread, ?_, ?_⟩
    · rw [horder, hrest]
      simp
    · rintro _ ⟨⟩
      exact hread
    · have hboth := hplaces.trans hafter
      simpa using hboth

/-- A poll skips the oldest text, unless there is none. -/
theorem misses (h : Sifts config before store returned none past skipped rest)
    (hpolled : config.Polled store after none) :
    ∃ skipped' rest', Sifts config before after returned none past skipped' rest' ∧
      (rest' ≠ [] → rest ≠ [] ∧ skipped'.length = skipped.length + 1) := by
  have hplaces := h.places
  cases hpolled with
  | empty hwaiting hafter =>
    have hrest : rest = [] := by
      rw [hplaces.waiting] at hwaiting
      exact List.reverse_eq_nil_iff.1 hwaiting
    exact ⟨skipped, rest, hafter ▸ h, fun hsome => absurd hrest hsome⟩
  | fails left envelope hwaiting hread hafter =>
    have hrest : rest = envelope :: left.reverse := by
      rw [hplaces.waiting] at hwaiting
      rw [← rest.reverse_reverse, hwaiting, List.reverse_concat]
    rw [hplaces.active, hplaces.failed] at hafter
    refine ⟨skipped ++ [envelope], left.reverse, ⟨?_, h.read, ?_, nofun, ?_⟩, fun _ => ⟨?_, ?_⟩⟩
    · rw [h.order, hrest]
      simp
    · exact List.forall_mem_append.2 ⟨h.unread, List.forall_mem_singleton.2 hread⟩
    · have hboth := hplaces.trans hafter
      simpa [hread] using hboth
    · rw [hrest]
      exact List.cons_ne_nil _ _
    · rw [List.length_append, List.length_singleton]

/-- The job that was handed over is taken, and the next wait begins. -/
theorem returns (h : Sifts config before store returned (some reserved) past skipped rest) :
    Sifts config before store (returned ++ [reserved]) none (past ++ skipped ++ [reserved.envelope]) [] rest := by
  have hread : ReservedJob.ofEnvelope? reserved.envelope = some reserved := h.last _ rfl
  refine ⟨by simp [h.order], ?_, nofun, nofun, ?_⟩
  · have hnone : skipped.filterMap ReservedJob.ofEnvelope? = [] := List.filterMap_eq_nil_iff.2 h.unread
    rw [List.filterMap_append, List.filterMap_append, hnone, List.append_nil, ← h.read,
      List.filterMap_cons_some hread, List.filterMap_nil]
  · have hplaces := h.places
    simpa [hread] using hplaces

end Sifts

/-! ### Waits -/

/-- A caller of a worker, which waits for one job after the other. -/
structure Caller where
  host : Host
  /-- When the wait that is under way began. -/
  since : Nat
  /-- What earlier waits gave, the oldest first. -/
  returned : List ReservedJob

namespace Caller

/-- The job that the last wait gave. -/
def held (m : Caller) : Option ReservedJob :=
  m.host.worker.bind fun worker => worker.stage.held

/-- The host goes on. A wait begins when its timer does. -/
def note (m : Caller) (host : Host) : Caller :=
  { m with
    host
    since := match host.worker.map Worker.stage with
      | some .idle => host.world.elapsed
      | _ => m.since }

/-- A worker that was just started. -/
def start (world : World) (consumer : Consumer) (pollInterval : Duration) (handle : HealthHandle) : Caller :=
  ⟨((Host.new world).startWorker consumer pollInterval handle).moveTo ⟨consumer, pollInterval, handle, .idle, 0⟩ .idle,
    world.elapsed, []⟩

inductive Step : Caller → Caller → Prop where
  | turns {m : Caller} {host : Host} (h : m.host.step = some host) : Step m (m.note host)
  | elapses {m : Caller} (nanos : Nat) : Step m (m.note (m.host.advance nanos))
  /-- The caller takes the job that a wait gave, and waits for the next one. -/
  | takes {m : Caller} (worker : Worker) (reserved : ReservedJob) (hworker : m.host.worker = some worker)
      (hstage : worker.stage = .holding reserved) :
      Step m ⟨(m.host.moveTo worker .idle).wake .worker, m.host.world.elapsed, m.returned ++ [reserved]⟩

/-- Any number of steps. -/
abbrev Run : Caller → Caller → Prop :=
  Relation.ReflTransGen Step

/-- Takes turns until no task can go on, at most a number of them. -/
def takeTurns : Nat → Caller → Caller
  | 0, m => m
  | turns + 1, m =>
    match m.host.step with
    | none => m
    | some host => takeTurns turns (m.note host)

theorem run_takeTurns (turns : Nat) (m : Caller) : Run m (takeTurns turns m) := by
  induction turns generalizing m with
  | zero => exact .refl
  | succ turns ih =>
    unfold takeTurns
    split
    next => exact .refl
    next host hstep => exact .head (.turns hstep) (ih _)

theorem host_takeTurns (turns : Nat) (m : Caller) : (takeTurns turns m).host = m.host.settle turns := by
  induction turns generalizing m with
  | zero => rfl
  | succ turns ih =>
    rw [takeTurns, Host.settle]
    cases m.host.step with
    | none => rfl
    | some host => exact ih (m.note host)

/-- No report can be made or no due time be told at a reading of the clock. -/
def Dateless (handle : HealthHandle) (reading : Int) : Prop :=
  ∃ p, Clock.recordTime reading = .error p ∨ HealthStatus.healthyFor reading handle.deadline = .error p

section

variable (world : World) (consumer : Consumer) (pollInterval : Duration) (handle : HealthHandle)

/-- What a wait that began at a time goes on with at a stage, and when. -/
def Awaits (host : Host) (since : Nat) (skipped rest : List String) : WorkerStage → Prop
  | .idle => .worker ∈ host.ready ∧ skipped = [] ∧ since = host.world.elapsed
  | .waiting due => (.worker ∈ host.ready ∨ ⟨Host.tickOf due, .worker⟩ ∈ host.timers) ∧
      (rest ≠ [] → due = since + skipped.length * pollInterval.nanos)
  | .reporting due => (.worker ∈ host.ready ∨ .reporter ∈ host.ready) ∧
      (rest ≠ [] → due = since + (skipped.length + 1) * pollInterval.nanos)
  | .polling due => .worker ∈ host.ready ∧
      (rest ≠ [] → due = since + (skipped.length + 1) * pollInterval.nanos)
  | .holding _ => True
  | .failed _ => False
  | .panicked _ => ∃ reading, world.wall ≤ reading ∧ reading ≤ host.world.wall ∧ Dateless handle reading

structure Sound (m : Caller) (stage : WorkerStage) (past skipped rest : List String) : Prop where
  worker : m.host.worker = some ⟨consumer, pollInterval, handle, stage, 0⟩
  running : m.host.running = []
  answers : m.host.world.jobs.Answers
  wall : world.wall ≤ m.host.world.wall
  timed : m.host.Timed
  reporter : m.host.health.queued ≠ [] → .reporter ∈ m.host.ready
  awaits : Awaits world pollInterval handle m.host m.since skipped rest stage
  sifts : Sifts consumer.queue world.jobs.store m.host.world.jobs.store m.returned m.held past skipped rest

end

variable {world : World} {consumer : Consumer} {pollInterval : Duration} {handle : HealthHandle}
  {m m' : Caller} {host : Host} {stage stage' : WorkerStage} {past skipped rest : List String}

theorem since_note_of_idle {worker : Worker} (hworker : host.worker = some worker) (hstage : worker.stage = .idle) :
    (m.note host).since = host.world.elapsed := by
  rw [note, hworker, Option.map_some, hstage]

theorem since_note {worker : Worker} (hworker : host.worker = some worker) (hstage : worker.stage ≠ .idle) :
    (m.note host).since = m.since := by
  rw [note, hworker, Option.map_some]
  dsimp only
  split
  next h => exact absurd (Option.some.inj h) hstage
  next => rfl

@[simp] theorem note_host (m : Caller) (host : Host) : (m.note host).host = host := rfl

theorem Sound.held (h : Sound world consumer pollInterval handle m stage past skipped rest) :
    m.held = stage.held := by
  rw [Caller.held, h.worker]
  rfl

/-- What takes nothing off the queue keeps how far the waits have come. -/
theorem Sound.renew (h : Sound world consumer pollInterval handle m stage past skipped rest)
    (hworker : host.worker = some ⟨consumer, pollInterval, handle, stage', 0⟩) (hheld : stage'.held = stage.held)
    (hrunning : host.running = []) (hjobs : host.world.jobs = m.host.world.jobs)
    (hwall : m.host.world.wall ≤ host.world.wall) (htimed : host.Timed)
    (hreporter : host.health.queued ≠ [] → .reporter ∈ host.ready)
    (hawaits : Awaits world pollInterval handle host (m.note host).since skipped rest stage') :
    Sound world consumer pollInterval handle (m.note host) stage' past skipped rest := by
  have hsame : (m.note host).held = m.held := by
    rw [h.held, ← hheld, Caller.held, note_host, hworker]
    rfl
  refine ⟨hworker, hrunning, ?_, h.wall.trans hwall, htimed, hreporter, hawaits, ?_⟩
  · rw [note_host, hjobs]
    exact h.answers
  · rw [hsame, note_host, hjobs]
    exact h.sifts

/-- A wait goes on to another stage. -/
theorem Sound.moves (h : Sound world consumer pollInterval handle m stage past skipped rest)
    (hworker : host.worker = some ⟨consumer, pollInterval, handle, stage', 0⟩) (hbusy : stage' ≠ .idle)
    (hheld : stage'.held = stage.held) (hrunning : host.running = []) (hworld : host.world = m.host.world)
    (htimed : host.Timed) (hreporter : host.health.queued ≠ [] → .reporter ∈ host.ready)
    (hawaits : Awaits world pollInterval handle host m.since skipped rest stage') :
    Sound world consumer pollInterval handle (m.note host) stage' past skipped rest := by
  refine h.renew hworker hheld hrunning (congrArg World.jobs hworld)
    (Int.le_of_eq (congrArg World.wall hworld.symm)) htimed hreporter ?_
  rw [since_note hworker hbusy]
  exact hawaits

/-- A wait goes on after what keeps its turns and timers, or gives it a turn for them. -/
theorem Sound.stays (h : Sound world consumer pollInterval handle m stage past skipped rest)
    (hworker : host.worker = some ⟨consumer, pollInterval, handle, stage, 0⟩)
    (hrunning : host.running = []) (hjobs : host.world.jobs = m.host.world.jobs)
    (hwall : m.host.world.wall ≤ host.world.wall) (htimed : host.Timed)
    (hreporter : host.health.queued ≠ [] → .reporter ∈ host.ready)
    (hready : .worker ∈ m.host.ready → .worker ∈ host.ready)
    (hreporting : ∀ due, stage = .reporting due → .reporter ∈ m.host.ready →
      .worker ∈ host.ready ∨ .reporter ∈ host.ready)
    (htimers : ∀ timer ∈ m.host.timers, timer.task ∈ host.ready ∨ timer ∈ host.timers) :
    Sound world consumer pollInterval handle (m.note host) stage past skipped rest := by
  refine h.renew hworker rfl hrunning hjobs hwall htimed hreporter ?_
  have hawaits := h.awaits
  cases stage with
  | idle => exact ⟨hready hawaits.1, hawaits.2.1, since_note_of_idle hworker rfl⟩
  | waiting due =>
    rw [since_note hworker nofun]
    exact ⟨hawaits.1.elim (fun hmem => .inl (hready hmem)) (htimers _), hawaits.2⟩
  | reporting due =>
    rw [since_note hworker nofun]
    exact ⟨hawaits.1.elim (fun hmem => .inl (hready hmem)) (hreporting due rfl), hawaits.2⟩
  | polling due =>
    rw [since_note hworker nofun]
    exact ⟨hready hawaits.1, hawaits.2⟩
  | holding => trivial
  | failed => exact hawaits
  | panicked p =>
    obtain ⟨reading, hfirst, hlast, hdateless⟩ := hawaits
    exact ⟨reading, hfirst, hlast.trans hwall, hdateless⟩

/-- The turn of the reporter. -/
theorem Sound.applies {ready : List Task} (h : Sound world consumer pollInterval handle m stage past skipped rest)
    (hready : m.host.ready = .reporter :: ready) :
    Sound world consumer pollInterval handle (m.note ({ m.host with ready } : Host).applyReports) stage past
      skipped rest := by
  have hself : ({ m.host with ready } : Host).worker = _ := h.worker
  obtain ⟨hleaves, hhealth, hwoken⟩ := Host.leaves_applyReports hself
  generalize hafter : ({ m.host with ready } : Host).applyReports = after at *
  have hworker : after.worker = m.host.worker := hafter ▸ Host.worker_applyReports _
  have hrunning : after.running = m.host.running := hafter ▸ Host.running_applyReports _
  have hworld : after.world = m.host.world := hafter ▸ Host.world_applyReports _
  have htimers : after.timers = m.host.timers := hafter ▸ Host.timers_applyReports _
  have hwall : m.host.world.wall ≤ after.world.wall := Int.le_of_eq (congrArg World.wall hworld.symm)
  refine h.stays (hworker.trans h.worker) (hrunning.trans h.running) (congrArg World.jobs hworld) hwall
    ?_ ?_ ?_ ?_ ?_
  · exact ⟨htimers ▸ h.timed.ordered, htimers ▸ hworld ▸ h.timed.later⟩
  · exact fun hqueued => absurd (congrArg HealthRegistry.queued hhealth) hqueued
  · intro hmem
    rw [hready] at hmem
    exact hleaves.ready _ ((List.mem_cons.1 hmem).resolve_left nofun)
  · exact fun due hstage _ => .inl (hwoken.2 (.inr ⟨due, hstage⟩))
  · exact fun timer htimer => .inr (htimers ▸ htimer)

/-- A job that does not run has no turn. -/
theorem Sound.runs {ready : List Task} {number : Nat}
    (h : Sound world consumer pollInterval handle m stage past skipped rest)
    (hready : m.host.ready = .job number :: ready) :
    Sound world consumer pollInterval handle (m.note (({ m.host with ready } : Host).runJob number)) stage past
      skipped rest := by
  have hsame : ({ m.host with ready } : Host).runJob number = { m.host with ready } := by
    rw [Host.runJob, h.running]
    rfl
  have hkept : ∀ task, (∀ n, task ≠ .job n) → task ∈ m.host.ready → task ∈ ready := by
    intro task hother hmem
    rw [hready] at hmem
    exact (List.mem_cons.1 hmem).resolve_left (hother _)
  rw [hsame]
  exact h.stays h.worker h.running rfl (Int.le_refl _) ⟨h.timed.ordered, h.timed.later⟩
    (fun hqueued => hkept _ (by simp) (h.reporter hqueued)) (hkept _ (by simp))
    (fun _ _ hmem => .inr (hkept _ (by simp) hmem)) fun _ htimer => .inr htimer

theorem Sound.elapses (h : Sound world consumer pollInterval handle m stage past skipped rest) (nanos : Nat) :
    Sound world consumer pollInterval handle (m.note (m.host.advance nanos)) stage past skipped rest := by
  have hkept : ∀ task ∈ m.host.ready, task ∈ (m.host.advance nanos).ready :=
    fun task hmem => List.mem_append_left _ hmem
  have hwall : m.host.world.wall ≤ (m.host.advance nanos).world.wall := by
    change m.host.world.wall ≤ m.host.world.wall + nanos
    omega
  exact h.stays h.worker h.running rfl hwall (h.timed.advance nanos)
    (fun hqueued => hkept _ (h.reporter hqueued)) (hkept _) (fun _ _ hmem => .inr (hkept _ hmem))
    fun _ htimer => Host.timer_advance nanos htimer

/-! ### Turns of the worker -/

/-- A poll gives no error. It panics only without a date. -/
theorem Sound.polls {due : Nat} (h : Sound world consumer pollInterval handle m (.polling due) past skipped rest)
    (hdue : ∀ x ∈ consumer.queue.delayed world.jobs.store, m.host.world.wall / nanosPerMilli < x.1) :
    (∃ p, (Queue.poll consumer.queue).run.run m.host.world = (m.host.world, .error p) ∧
        Dateless handle m.host.world.wall) ∨
      ∃ after result, (Queue.poll consumer.queue).run.run m.host.world = (after, .ok (.ok result)) ∧
        after.jobs.Answers ∧ consumer.queue.Polled m.host.world.jobs.store after.jobs.store result := by
  cases hread : Clock.recordTime m.host.world.wall with
  | error p => exact .inl ⟨p, Queue.run_poll_of_error hread, p, .inl hread⟩
  | ok now =>
    obtain ⟨rfl, -⟩ := Clock.recordTime_eq_ok.1 hread
    refine .inr (Queue.polled h.answers hread fun x hx => hdue x ?_)
    rw [QueueConfig.delayed, h.sifts.places.sets] at hx
    exact hx

/-- What a poll gives has come off the queue, and no time has passed. -/
theorem Sound.polled {due : Nat} {after : World} {result : Option ReservedJob}
    (h : Sound world consumer pollInterval handle m (.polling due) past skipped rest)
    (hdue : ∀ x ∈ consumer.queue.delayed world.jobs.store, m.host.world.wall / nanosPerMilli < x.1)
    (hpoll : (Queue.poll consumer.queue).run.run m.host.world = (after, .ok (.ok result))) :
    after.jobs.Answers ∧ (after.wall = m.host.world.wall ∧ after.elapsed = m.host.world.elapsed) ∧
      consumer.queue.Polled m.host.world.jobs.store after.jobs.store result := by
  have hclocks := Program.clocks_run (Queue.poll consumer.queue).run m.host.world
  obtain ⟨p, hrun, -⟩ | ⟨after', result', hrun, hanswers, hpolled⟩ := h.polls hdue
  · cases hpoll.symm.trans hrun
  · obtain ⟨rfl, hresult⟩ := Prod.mk.inj (hpoll.symm.trans hrun)
    cases hresult
    rw [hrun] at hclocks
    exact ⟨hanswers, hclocks, hpolled⟩

/-- The oldest text is the job that is handed over. -/
theorem Sound.reserves {due : Nat} {after : World} {reserved : ReservedJob}
    (h : Sound world consumer pollInterval handle m (.polling due) past skipped rest)
    (hanswers : after.jobs.Answers)
    (hclocks : after.wall = m.host.world.wall ∧ after.elapsed = m.host.world.elapsed)
    (hpolled : consumer.queue.Polled m.host.world.jobs.store after.jobs.store (some reserved)) :
    ∃ rest', Sound world consumer pollInterval handle
      (m.note ({ m.host with world := after }.moveTo ⟨consumer, pollInterval, handle, .polling due, 0⟩
        (.holding reserved))) (.holding reserved) past skipped rest' := by
  have hsifts := h.sifts
  rw [h.held] at hsifts
  obtain ⟨rest', hrest⟩ := hsifts.takes hpolled
  exact ⟨rest', rfl, h.running, hanswers, hclocks.1 ▸ h.wall, ⟨h.timed.ordered, hclocks.2 ▸ h.timed.later⟩,
    h.reporter, trivial, hrest⟩

/-- The oldest text cannot be read and is skipped, or there is none. -/
theorem Sound.misses {due : Nat} {after : World}
    (h : Sound world consumer pollInterval handle m (.polling due) past skipped rest)
    (hanswers : after.jobs.Answers)
    (hclocks : after.wall = m.host.world.wall ∧ after.elapsed = m.host.world.elapsed)
    (hpolled : consumer.queue.Polled m.host.world.jobs.store after.jobs.store none) :
    ∃ skipped' rest', Sound world consumer pollInterval handle
      (m.note ({ m.host with world := after }.moveTo ⟨consumer, pollInterval, handle, .polling due, 0⟩
        (.waiting due))) (.waiting due) past skipped' rest' := by
  have hsifts := h.sifts
  rw [h.held] at hsifts
  obtain ⟨skipped', rest', hrest, hnext⟩ := hsifts.misses hpolled
  refine ⟨skipped', rest', rfl, h.running, hanswers, hclocks.1 ▸ h.wall,
    ⟨h.timed.ordered, hclocks.2 ▸ h.timed.later⟩, h.reporter, ⟨.inl h.awaits.1, fun hsome => ?_⟩, hrest⟩
  obtain ⟨hsome', hlength⟩ := hnext hsome
  rw [hlength]
  exact h.awaits.2 hsome'

/-- A report gives a turn to the reporter, and the worker polls next. -/
theorem Sound.reports {due : Nat} (status : HealthStatus)
    (h : Sound world consumer pollInterval handle m (.reporting due) past skipped rest)
    (hfirst : .worker ∈ m.host.ready) :
    Sound world consumer pollInterval handle
      (m.note ((m.host.report ⟨handle.component, status⟩).moveTo ⟨consumer, pollInterval, handle, .reporting due, 0⟩
        (.polling due))) (.polling due) past skipped rest := by
  generalize hafter : m.host.report ⟨handle.component, status⟩ = after
  have hworld : after.world = m.host.world := hafter ▸ Host.world_wake _ _
  have hrunning : after.running = m.host.running := hafter ▸ Host.running_wake _ _
  have htimers : after.timers = m.host.timers := hafter ▸ Host.timers_wake _ _
  have hwoken : ∀ task, task ∈ after.ready ↔ task = .reporter ∨ task ∈ m.host.ready :=
    fun task => hafter ▸ Host.mem_wake
  refine h.moves rfl nofun rfl (hrunning.trans h.running) hworld ?_ (fun _ => (hwoken _).2 (.inl rfl))
    ⟨(hwoken _).2 (.inr hfirst), h.awaits.2⟩
  exact ⟨htimers ▸ h.timed.ordered, htimers ▸ hworld ▸ h.timed.later⟩

/-- A worker that has nothing to do waits for the reporter or for its caller, or its loop is over. -/
theorem Sound.rests {ready : List Task} (h : Sound world consumer pollInterval handle m stage past skipped rest)
    (hreporter : m.host.health.queued ≠ [] → .reporter ∈ ready)
    (hstays : m.host.Stays ⟨consumer, pollInterval, handle, stage, 0⟩) :
    Sound world consumer pollInterval handle (m.note { m.host with ready }) stage past skipped rest := by
  have hmoves : stage ≠ .idle → Awaits world pollInterval handle { m.host with ready } m.since skipped rest stage →
      Sound world consumer pollInterval handle (m.note { m.host with ready }) stage past skipped rest :=
    fun hbusy => h.moves h.worker hbusy rfl h.running rfl ⟨h.timed.ordered, h.timed.later⟩ hreporter
  have hawaits := h.awaits
  cases hstays with
  | full due hstage hfull =>
    obtain rfl : stage = .reporting due := hstage
    have hqueued : m.host.health.queued ≠ [] := by
      intro hnil
      simp [HealthRegistry.isFull, HealthRegistry.capacity, hnil] at hfull
    exact hmoves nofun ⟨.inr (hreporter hqueued), hawaits.2⟩
  | unpermitted reserved hstage =>
    obtain rfl : stage = .holding reserved := hstage
    exact hmoves nofun trivial
  | failed error hstage =>
    obtain rfl : stage = .failed error := hstage
    exact hmoves nofun hawaits
  | panicked p hstage =>
    obtain rfl : stage = .panicked p := hstage
    exact hmoves nofun hawaits

/-- A loop that halts has panicked without a date. -/
theorem Sound.halts {after : World} {stopped : WorkerStage}
    (h : Sound world consumer pollInterval handle m stage past skipped rest) (hinterval : pollInterval.nanos ≠ 0)
    (hdue : ∀ x ∈ consumer.queue.delayed world.jobs.store, m.host.world.wall / nanosPerMilli < x.1)
    (hhalts : m.host.Halts ⟨consumer, pollInterval, handle, stage, 0⟩ after stopped) :
    ∃ p, stopped = .panicked p ∧ after = m.host.world ∧ stage.held = none ∧ Dateless handle m.host.world.wall := by
  cases hhalts with
  | noPeriod hstage hperiod => exact absurd hperiod hinterval
  | dateless due p hstage hdate =>
    obtain rfl : stage = .reporting due := hstage
    exact ⟨p, rfl, rfl, rfl, p, .inr hdate⟩
  | failed due _ error hstage hpoll =>
    obtain rfl : stage = .polling due := hstage
    obtain ⟨p, hrun, -⟩ | ⟨world', result, hrun, -⟩ := h.polls hdue <;> cases hpoll.symm.trans hrun
  | broken due _ p hstage hpoll =>
    obtain rfl : stage = .polling due := hstage
    obtain ⟨p', hrun, hdateless⟩ | ⟨world', result, hrun, -⟩ := h.polls hdue <;> cases hpoll.symm.trans hrun
    exact ⟨p, rfl, rfl, rfl, hdateless⟩

/-- Whatever the worker does in its turn, no text is lost or taken twice. -/
theorem Sound.works {ready : List Task} (h : Sound world consumer pollInterval handle m stage past skipped rest)
    (hinterval : pollInterval.nanos ≠ 0)
    (hdue : ∀ x ∈ consumer.queue.delayed world.jobs.store, m.host.world.wall / nanosPerMilli < x.1)
    (hready : m.host.ready = .worker :: ready)
    (hworks : m.host.Works ⟨consumer, pollInterval, handle, stage, 0⟩ ready host) :
    ∃ stage' skipped' rest', Sound world consumer pollInterval handle (m.note host) stage' past skipped' rest' := by
  have hfirst : .worker ∈ m.host.ready := hready ▸ .head _
  have hreporter : m.host.health.queued ≠ [] → .reporter ∈ ready := by
    intro hqueued
    have hmem := h.reporter hqueued
    rw [hready] at hmem
    exact (List.mem_cons.1 hmem).resolve_left nofun
  have hawaits := h.awaits
  cases hworks with
  | begins hstage =>
    obtain rfl : stage = .idle := hstage
    obtain ⟨-, rfl, hsince⟩ := hawaits
    refine ⟨.waiting m.host.world.elapsed, [], rest, h.moves rfl nofun rfl h.running rfl
      ⟨h.timed.ordered, h.timed.later⟩ h.reporter ⟨.inl hfirst, fun _ => ?_⟩⟩
    rw [hsince, List.length_nil, Nat.zero_mul]
    rfl
  | sleeps due hstage hnot =>
    obtain rfl : stage = .waiting due := hstage
    have htimed : (m.host.sleep .worker due).Timed := h.timed.sleep hnot
    exact ⟨.waiting due, skipped, rest, h.moves h.worker nofun rfl h.running rfl ⟨htimed.ordered, htimed.later⟩
      hreporter ⟨.inr (Host.mem_insertTimer.2 (.inl rfl)), hawaits.2⟩⟩
  | wakes due hstage hdue =>
    obtain rfl : stage = .waiting due := hstage
    refine ⟨.reporting (due + pollInterval.nanos), skipped, rest, h.moves rfl nofun rfl h.running rfl
      ⟨h.timed.ordered, h.timed.later⟩ h.reporter ⟨.inl hfirst, fun hrest => ?_⟩⟩
    rw [hawaits.2 hrest, Nat.succ_mul, Nat.add_assoc]
  | reports due status hstage hroom hstatus =>
    obtain rfl : stage = .reporting due := hstage
    exact ⟨_, _, _, h.reports status hfirst⟩
  | reserves due after reserved hstage hpoll =>
    obtain rfl : stage = .polling due := hstage
    obtain ⟨hanswers, hclocks, hpolled⟩ := h.polled hdue hpoll
    obtain ⟨rest', hsound⟩ := h.reserves hanswers hclocks hpolled
    exact ⟨_, _, _, hsound⟩
  | misses due after hstage hpoll =>
    obtain rfl : stage = .polling due := hstage
    obtain ⟨hanswers, hclocks, hpolled⟩ := h.polled hdue hpoll
    obtain ⟨skipped', rest', hsound⟩ := h.misses hanswers hclocks hpolled
    exact ⟨_, _, _, hsound⟩
  | starts reserved left hstage hpermits => cases hpermits
  | halts after stopped hhalts =>
    obtain ⟨p, rfl, rfl, hfree, hdateless⟩ := h.halts hinterval hdue hhalts
    exact ⟨.panicked p, skipped, rest, h.moves rfl nofun hfree.symm h.running rfl
      ⟨h.timed.ordered, h.timed.later⟩ hreporter ⟨m.host.world.wall, h.wall, Int.le_refl _, hdateless⟩⟩
  | stays hstays => exact ⟨_, _, _, h.rests hreporter hstays⟩

/-! ### Steps -/

/-- The caller takes the job, and the worker waits for the next one. -/
theorem Sound.takes {reserved : ReservedJob}
    (h : Sound world consumer pollInterval handle m (.holding reserved) past skipped rest) :
    Sound world consumer pollInterval handle
      ⟨(m.host.moveTo ⟨consumer, pollInterval, handle, .holding reserved, 0⟩ .idle).wake .worker,
        m.host.world.elapsed, m.returned ++ [reserved]⟩ .idle (past ++ skipped ++ [reserved.envelope]) [] rest := by
  have hsifts := h.sifts
  rw [h.held] at hsifts
  generalize hafter : (m.host.moveTo ⟨consumer, pollInterval, handle, .holding reserved, 0⟩ .idle).wake .worker = after
  have hworker : after.worker = some ⟨consumer, pollInterval, handle, .idle, 0⟩ := hafter ▸ Host.worker_wake _ _
  have hworld : after.world = m.host.world := hafter ▸ Host.world_wake _ _
  have hhealth : after.health = m.host.health := hafter ▸ Host.health_wake _ _
  have hrunning : after.running = m.host.running := hafter ▸ Host.running_wake _ _
  have htimers : after.timers = m.host.timers := hafter ▸ Host.timers_wake _ _
  have hwoken : ∀ task, task ∈ after.ready ↔ task = .worker ∨ task ∈ m.host.ready :=
    fun task => hafter ▸ Host.mem_wake
  refine ⟨hworker, hrunning.trans h.running, hworld ▸ h.answers, hworld ▸ h.wall,
    ⟨htimers ▸ h.timed.ordered, htimers ▸ hworld ▸ h.timed.later⟩,
    fun hqueued => (hwoken _).2 (.inr (h.reporter (hhealth ▸ hqueued))),
    ⟨(hwoken _).2 (.inl rfl), rfl, congrArg World.elapsed hworld.symm⟩, ?_⟩
  have hnone : Caller.held ⟨after, m.host.world.elapsed, m.returned ++ [reserved]⟩ = none := by
    rw [Caller.held, hworker]
    rfl
  rw [hnone, hworld]
  exact hsifts.returns

theorem sound_start (hanswers : world.jobs.Answers) :
    Sound world consumer pollInterval handle (start world consumer pollInterval handle) .idle [] []
      (consumer.queue.waiting world.jobs.store).reverse := by
  have hready : (start world consumer pollInterval handle).host.ready = [.reporter, .worker] := rfl
  refine ⟨rfl, rfl, hanswers, Int.le_refl _, ⟨.nil, nofun⟩, fun _ => hready ▸ .head _, ⟨?_, rfl, rfl⟩,
    .start consumer.queue world.jobs.store⟩
  rw [hready]
  exact .tail _ (.head _)

theorem Sound.step (h : Sound world consumer pollInterval handle m stage past skipped rest)
    (hinterval : pollInterval.nanos ≠ 0)
    (hdue : ∀ x ∈ consumer.queue.delayed world.jobs.store, m.host.world.wall / nanosPerMilli < x.1)
    (hstep : Step m m') :
    ∃ stage' past' skipped' rest', Sound world consumer pollInterval handle m' stage' past' skipped' rest' := by
  cases hstep with
  | turns hturn =>
    cases Host.turned_of_step hturn with
    | applies hready => exact ⟨_, _, _, _, h.applies hready⟩
    | runs number hready => exact ⟨_, _, _, _, h.runs hready⟩
    | idles hready hnone => cases h.worker.symm.trans hnone
    | works hready hworker hworks =>
      obtain rfl := Option.some.inj (h.worker.symm.trans hworker)
      obtain ⟨stage', skipped', rest', h'⟩ := h.works hinterval hdue hready hworks
      exact ⟨_, _, _, _, h'⟩
  | elapses nanos => exact ⟨_, _, _, _, h.elapses nanos⟩
  | takes worker reserved hworker hstage =>
    obtain rfl := Option.some.inj (h.worker.symm.trans hworker)
    obtain rfl : stage = .holding reserved := hstage
    exact ⟨_, _, _, _, h.takes⟩

/-- The wall clock does not go back. -/
theorem wall_le_of_step (hstep : Step m m') : m.host.world.wall ≤ m'.host.world.wall := by
  cases hstep with
  | turns hturn => exact Int.le_of_eq (Host.clocks_of_step hturn).1.symm
  | elapses nanos =>
    change m.host.world.wall ≤ m.host.world.wall + nanos
    omega
  | takes worker =>
    exact Int.le_of_eq (congrArg World.wall (Host.world_wake (m.host.moveTo worker .idle) .worker).symm)

theorem Sound.of_run (hanswers : world.jobs.Answers) (hinterval : pollInterval.nanos ≠ 0)
    (hrun : Run (start world consumer pollInterval handle) m)
    (hdue : ∀ x ∈ consumer.queue.delayed world.jobs.store, m.host.world.wall / nanosPerMilli < x.1) :
    ∃ stage past skipped rest, Sound world consumer pollInterval handle m stage past skipped rest := by
  induction hrun with
  | refl => exact ⟨_, _, _, _, sound_start hanswers⟩
  | tail _ hstep ih =>
    have hdue' : ∀ x ∈ consumer.queue.delayed world.jobs.store, _ := fun x hx =>
      (Int.ediv_le_ediv (by decide) (wall_le_of_step hstep)).trans_lt (hdue x hx)
    obtain ⟨stage, past, skipped, rest, h⟩ := ih hdue'
    exact h.step hinterval hdue' hstep

/-- Turns at one moment come to an end. -/
theorem Sound.exists_takeTurns (h : Sound world consumer pollInterval handle m stage past skipped rest)
    (hinterval : pollInterval.nanos ≠ 0) :
    ∃ turns, (takeTurns turns m).host.ready = [] ∧ (takeTurns turns m).host.world.wall = m.host.world.wall ∧
      (takeTurns turns m).host.world.elapsed = m.host.world.elapsed := by
  refine ⟨m.host.effort stage, ?_⟩
  rw [host_takeTurns]
  exact ⟨Host.ready_settle h.worker h.running hinterval rfl (Nat.le_refl _), Host.clocks_settle _ _⟩

/-- While no delayed job is due, the waits of a worker sift the texts of its queue: they give the readable ones,
each once and the oldest first, and move the others to the failed ones, in the order in which they waited. When
a wait gives a job, every text that waited before it has been given or moved, and none of the moved ones stays
active. No wait ends with an error, and one that panics has met a reading of the clock that is no date. While
texts are waiting, each poll deals with one of them, so that a wait that skips some texts is over as many polls
later: turns at one moment come to an end, and then the wait is over, or its next poll is yet to come. -/
theorem sifts_queue (hanswers : world.jobs.Answers) (hinterval : pollInterval.nanos ≠ 0)
    (hrun : Run (start world consumer pollInterval handle) m)
    (hdue : ∀ x ∈ consumer.queue.delayed world.jobs.store, m.host.world.wall / nanosPerMilli < x.1) :
    ∃ worker past skipped rest, m.host.worker = some worker ∧
      Sifts consumer.queue world.jobs.store m.host.world.jobs.store m.returned m.held past skipped rest ∧
      (∀ error, worker.stage ≠ .failed error) ∧
      (∀ p, worker.stage = .panicked p →
        ∃ reading, world.wall ≤ reading ∧ reading ≤ m.host.world.wall ∧ Dateless handle reading) ∧
      (m.host.ready = [] → rest = [] ∨ m.held.isSome = true ∨ (∃ p, worker.stage = .panicked p) ∨
        m.host.world.elapsed < Host.tickOf (m.since + skipped.length * pollInterval.nanos) * nanosPerMilli) ∧
      ∃ turns, (takeTurns turns m).host.ready = [] ∧
        (takeTurns turns m).host.world.wall = m.host.world.wall ∧
        (takeTurns turns m).host.world.elapsed = m.host.world.elapsed := by
  obtain ⟨stage, past, skipped, rest, h⟩ := Sound.of_run hanswers hinterval hrun hdue
  have hawaits := h.awaits
  refine ⟨_, past, skipped, rest, h.worker, h.sifts, ?_, ?_, fun hready => ?_, h.exists_takeTurns hinterval⟩
  · rintro error rfl
    exact hawaits
  · rintro p rfl
    exact hawaits
  · have hnone : ∀ task, task ∉ m.host.ready := fun task hmem => by simp [hready] at hmem
    rw [h.held]
    cases stage with
    | idle => exact absurd hawaits.1 (hnone _)
    | waiting due =>
      by_cases hrest : rest = []
      · exact .inl hrest
      · have htimer : ⟨Host.tickOf due, .worker⟩ ∈ m.host.timers := hawaits.1.resolve_left (hnone _)
        have hlater := h.timed.later _ htimer
        rw [hawaits.2 hrest] at hlater
        exact .inr (.inr (.inr hlater))
    | reporting due => exact hawaits.1.elim (absurd · (hnone _)) (absurd · (hnone _))
    | polling due => exact absurd hawaits.1 (hnone _)
    | holding reserved => exact .inr (.inl rfl)
    | failed error => exact hawaits.elim
    | panicked p => exact .inr (.inr (.inl ⟨p, rfl⟩))

/-! ### A fixed run -/

/-- Takes the job that the last wait gave, if it gave one. -/
def take (m : Caller) : Caller :=
  match m.host.worker with
  | none => m
  | some worker =>
    match worker.stage with
    | .holding reserved =>
      ⟨(m.host.moveTo worker .idle).wake .worker, m.host.world.elapsed, m.returned ++ [reserved]⟩
    | _ => m

theorem run_take (m : Caller) : Run m m.take := by
  unfold take
  split
  next => exact .refl
  next worker hworker =>
    split
    next reserved hstage => exact .single (.takes worker reserved hworker hstage)
    next => exact .refl

/-- Two jobs wait, then a text that cannot be read, and then another job. -/
def sampleStart : Caller :=
  let text (id : String) : String := Job.codec.text { Job.sample with id }
  let world := QueueConfig.sample.afterPush (QueueConfig.sample.afterPush (QueueConfig.sample.afterPush
    (QueueConfig.sample.afterPush (World.new [] false 0) (text "j1")) (text "j2")) "x") (text "j3")
  start world ⟨.sample, .ofSeconds 60, Validation.defaultMaxQueryLength⟩ (.ofMillis 10) ⟨"worker", .ofMillis 30000⟩

/-- After the second wait. -/
def sampleSecond : Caller :=
  takeTurns 20 (takeTurns 20 sampleStart).take

/-- Some time after the second wait. -/
def samplePassed (nanos : Nat) : Caller :=
  let m := takeTurns 20 sampleSecond.take
  m.note (m.host.advance nanos)

/-- After the third wait, which took two polls. -/
def sampleThird : Caller :=
  takeTurns 20 (samplePassed 10000000)

theorem run_sampleSecond : Run sampleStart sampleSecond :=
  ((run_takeTurns 20 _).trans (run_take _)).trans (run_takeTurns 20 _)

theorem run_sampleThird : Run sampleStart sampleThird := by
  have hpasses : ∀ nanos, Run sampleSecond (samplePassed nanos) := fun nanos =>
    ((run_take _).trans (run_takeTurns 20 _)).tail (.elapses nanos)
  exact (run_sampleSecond.trans (hpasses _)).trans (run_takeTurns 20 _)

/-- The third wait gives the last job, and the text before it has been put to the failed ones. -/
theorem sample_sifted : ∃ (worker : Worker) (past skipped rest : List String), Run sampleStart sampleThird ∧
    sampleThird.host.worker = some worker ∧ sampleThird.held.isSome = true ∧
    Sifts .sample sampleStart.host.world.jobs.store sampleThird.host.world.jobs.store sampleThird.returned
      sampleThird.held past skipped rest ∧
    (∀ error, worker.stage ≠ .failed error) ∧
    QueueConfig.sample.failed sampleThird.host.world.jobs.store = ["x"] := by
  have hdue : ∀ x ∈ QueueConfig.sample.delayed sampleStart.host.world.jobs.store,
      sampleThird.host.world.wall / nanosPerMilli < x.1 := nofun
  have hstate : sampleThird.held.isSome = true ∧
      QueueConfig.sample.failed sampleThird.host.world.jobs.store = ["x"] := by
    decide +kernel
  obtain ⟨worker, past, skipped, rest, hworker, hsifts, herror, -, -, -⟩ :=
    sifts_queue (fun _ => ⟨rfl, rfl⟩) (by decide) run_sampleThird hdue
  exact ⟨worker, past, skipped, rest, run_sampleThird, hworker, hstate.1, hsifts, herror, hstate.2⟩

/-- After the second wait, the text that cannot be read still waits before the oldest job that does. -/
theorem sample_unread_waits : Run sampleStart sampleSecond ∧ sampleSecond.held.isSome = true ∧
    QueueConfig.sample.waiting sampleSecond.host.world.jobs.store =
      [Job.codec.text { Job.sample with id := "j3" }, "x"] ∧
    ReservedJob.ofEnvelope? "x" = none ∧
    (ReservedJob.ofEnvelope? (Job.codec.text { Job.sample with id := "j3" })).isSome = true := by
  refine ⟨run_sampleSecond, ?_⟩
  decide +kernel

end Caller

end JobQueue
