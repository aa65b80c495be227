import JobQueue.Host
import JobQueue.Proofs.Store.Commands
import Mathlib.Data.List.TakeWhile

/-! The turns of a host, one by one: what each of its tasks can do in a turn, and that no turn takes
time. -/

namespace JobQueue

open Time (nanosPerMilli)

/-! ### Clocks -/

/-- Nothing that a program does moves a clock. -/
theorem World.clocks_perform (world : World) (e : Effect) :
    (world.perform e).1.wall = world.wall ∧ (world.perform e).1.elapsed = world.elapsed := by
  have happened : Happens False world e _ _ := .performed e
  exact happened.clocks

namespace Program

variable {α : Type}

theorem clocks_run (p : Program α) (world : World) :
    (p.run world).1.wall = world.wall ∧ (p.run world).1.elapsed = world.elapsed := by
  induction p generalizing world with
  | done | panic => exact ⟨rfl, rfl⟩
  | step e next ih =>
    have hclocks := world.clocks_perform e
    rw [run]
    split
    next after a hperform =>
      rw [hperform] at hclocks
      exact ⟨(ih a after).1.trans hclocks.1, (ih a after).2.trans hclocks.2⟩
    next after p hperform =>
      rw [hperform] at hclocks
      exact hclocks

theorem clocks_runUntilDelay (p : Program α) (world : World) :
    (p.runUntilDelay world).1.wall = world.wall ∧ (p.runUntilDelay world).1.elapsed = world.elapsed := by
  induction p generalizing world with
  | done | panic => exact ⟨rfl, rfl⟩
  | step e next ih =>
    have hclocks := world.clocks_perform e
    rw [runUntilDelay]
    split
    next after a hperform =>
      rw [hperform] at hclocks
      split
      next => exact ⟨(ih a after).1.trans hclocks.1, (ih a after).2.trans hclocks.2⟩
      next => exact hclocks
    next after p hperform =>
      rw [hperform] at hclocks
      exact hclocks

end Program

namespace Host

/-! ### Timers and turns -/

theorem mem_insertTimer {timer new : Timer} {timers : List Timer} :
    timer ∈ insertTimer new timers ↔ timer = new ∨ timer ∈ timers := by
  induction timers with
  | nil => simp [insertTimer]
  | cons first rest ih =>
    unfold insertTimer
    split
    · rw [List.mem_cons, ih, List.mem_cons, or_left_comm]
    · simp

/-- The first whole millisecond that is not before a time. -/
theorem le_tickOf (time : Nat) : time ≤ tickOf time * nanosPerMilli := by
  simp only [tickOf, nanosPerMilli]
  omega

theorem tickOf_mul (ticks : Nat) : tickOf (ticks * nanosPerMilli) = ticks := by
  simp only [tickOf, nanosPerMilli]
  omega

/-- Waiting is counted in whole milliseconds, and rounding up twice takes no less. -/
theorem tickOf_add_le (time more : Nat) : tickOf (time + more) ≤ tickOf time + tickOf more := by
  simp only [tickOf, nanosPerMilli]
  omega

theorem isDue_iff {host : Host} {time : Nat} :
    host.isDue time = true ↔ tickOf time * nanosPerMilli ≤ host.world.elapsed := by
  rw [isDue, decide_eq_true_iff, nanosPerMilli]
  omega

/-- The timers stand in their order, and none of them has come due. -/
structure Timed (host : Host) : Prop where
  ordered : host.timers.Pairwise fun first next => first.tick ≤ next.tick
  later : ∀ timer ∈ host.timers, host.world.elapsed < timer.tick * nanosPerMilli

theorem pairwise_insertTimer {new : Timer} {timers : List Timer}
    (h : timers.Pairwise fun first next => first.tick ≤ next.tick) :
    (insertTimer new timers).Pairwise fun first next => first.tick ≤ next.tick := by
  induction timers with
  | nil => exact List.pairwise_singleton _ _
  | cons first rest ih =>
    obtain ⟨hfirst, hrest⟩ := List.pairwise_cons.1 h
    unfold insertTimer
    split
    next hle =>
      refine List.pairwise_cons.2 ⟨fun next hnext => ?_, ih hrest⟩
      obtain rfl | hold := mem_insertTimer.1 hnext
      · exact hle
      · exact hfirst next hold
    next hnot =>
      have hle : new.tick ≤ first.tick := Nat.le_of_not_le hnot
      exact List.pairwise_cons.2 ⟨List.forall_mem_cons.2 ⟨hle, fun next hnext => hle.trans (hfirst next hnext)⟩, h⟩

/-- A task that has to wait for a time waits for a timer. -/
theorem Timed.sleep {host : Host} (h : host.Timed) {task : Task} {time : Nat} (hdue : ¬host.isDue time = true) :
    (host.sleep task time).Timed := by
  refine ⟨pairwise_insertTimer h.ordered, fun timer htimer => ?_⟩
  obtain rfl | hold := mem_insertTimer.1 htimer
  · exact Nat.lt_of_not_le fun hle => hdue (isDue_iff.2 hle)
  · exact h.later timer hold

/-- In their order, no timer is due after one that is not. -/
theorem lt_of_mem_dropWhile {limit : Nat} {timers : List Timer}
    (h : timers.Pairwise fun first next => first.tick ≤ next.tick) {timer : Timer}
    (htimer : timer ∈ timers.dropWhile fun timer => timer.tick ≤ limit) : limit < timer.tick := by
  induction timers with
  | nil => cases htimer
  | cons first rest ih =>
    obtain ⟨hfirst, hrest⟩ := List.pairwise_cons.1 h
    rw [List.dropWhile_cons] at htimer
    split at htimer
    next => exact ih hrest htimer
    next hnot =>
      have hlater : limit < first.tick := by simpa using hnot
      obtain rfl | hold := List.mem_cons.1 htimer
      · exact hlater
      · exact hlater.trans_le (hfirst timer hold)

/-- Timers that have come due fire when time passes. -/
theorem Timed.advance {host : Host} (h : host.Timed) (nanos : Nat) : (host.advance nanos).Timed := by
  refine ⟨h.ordered.sublist (List.dropWhile_sublist _), fun timer htimer => ?_⟩
  exact (Nat.div_lt_iff_lt_mul (by decide)).1 (lt_of_mem_dropWhile h.ordered htimer)

/-- Only timers that have come due give turns to tasks when time passes. -/
theorem ready_of_advance {host : Host} {nanos : Nat} {task : Task} (h : task ∈ (host.advance nanos).ready) :
    task ∈ host.ready ∨
      ∃ timer ∈ host.timers, timer.task = task ∧ timer.tick * nanosPerMilli ≤ host.world.elapsed + nanos := by
  obtain hold | hfired := List.mem_append.1 h
  · exact .inl hold
  · obtain ⟨timer, htimer, rfl⟩ := List.mem_map.1 hfired
    refine .inr ⟨timer, (List.takeWhile_sublist _).subset htimer, rfl, ?_⟩
    have hdue := List.mem_takeWhile_imp htimer
    exact (Nat.le_div_iff_mul_le (by decide)).1 (decide_eq_true_iff.1 hdue)

/-- A timer stays until its task gets a turn. -/
theorem timer_advance {host : Host} (nanos : Nat) {timer : Timer} (h : timer ∈ host.timers) :
    timer.task ∈ (host.advance nanos).ready ∨ timer ∈ (host.advance nanos).timers := by
  rw [← List.takeWhile_append_dropWhile (p := fun timer : Timer =>
    decide (timer.tick ≤ (host.world.elapsed + nanos) / nanosPerMilli)) (l := host.timers)] at h
  obtain hfired | hleft := List.mem_append.1 h
  · exact .inl (List.mem_append_right _ (List.mem_map_of_mem hfired))
  · exact .inr hleft

theorem mem_wake {host : Host} {task other : Task} :
    other ∈ (host.wake task).ready ↔ other = task ∨ other ∈ host.ready := by
  unfold wake
  split
  next h =>
    refine ⟨.inr, fun hother => hother.elim (fun heq => heq ▸ h) id⟩
  next => simp [or_comm]

section

variable (host : Host) (task : Task)

@[simp] theorem world_wake : (host.wake task).world = host.world := by
  unfold wake
  split <;> rfl

@[simp] theorem health_wake : (host.wake task).health = host.health := by
  unfold wake
  split <;> rfl

@[simp] theorem worker_wake : (host.wake task).worker = host.worker := by
  unfold wake
  split <;> rfl

@[simp] theorem running_wake : (host.wake task).running = host.running := by
  unfold wake
  split <;> rfl

@[simp] theorem timers_wake : (host.wake task).timers = host.timers := by
  unfold wake
  split <;> rfl

end

/-! ### Tasks other than the worker -/

/-- A turn leaves to a worker all but its permits, and wakes no other task. -/
structure Leaves (host : Host) (worker : Worker) (after : Host) : Prop where
  worker : ∃ permits, after.worker = some { worker with permits }
  clocks : after.world.wall = host.world.wall ∧ after.world.elapsed = host.world.elapsed
  ready : ∀ task ∈ host.ready, task ∈ after.ready
  woken : ∀ task ∈ after.ready, task = .worker ∨ task ∈ host.ready
  timers : ∀ timer ∈ host.timers, timer ∈ after.timers

theorem leaves_finish {host : Host} {worker : Worker} (number : Nat) (hworker : host.worker = some worker) :
    host.Leaves worker (host.finish number) ∧ (host.finish number).health = host.health := by
  unfold finish
  simp only [hworker]
  split
  · refine ⟨⟨⟨_, worker_wake ..⟩, by simp, fun task h => mem_wake.2 (.inr h), fun task h => ?_, by simp⟩,
      by simp⟩
    have hwoken := mem_wake.1 h
    exact hwoken
  · exact ⟨⟨⟨_, rfl⟩, ⟨rfl, rfl⟩, fun _ h => h, fun _ h => .inr h, fun _ h => h⟩, rfl⟩

theorem leaves_runJob {host : Host} {worker : Worker} (number : Nat) (hworker : host.worker = some worker) :
    host.Leaves worker (host.runJob number) ∧ (host.runJob number).health = host.health := by
  unfold runJob
  split
  next => exact ⟨⟨⟨_, hworker⟩, ⟨rfl, rfl⟩, fun _ h => h, fun _ h => .inr h, fun _ h => h⟩, rfl⟩
  next job _ =>
    have hclocks := job.rest.clocks_runUntilDelay host.world
    split
    next world delay rest hrun =>
      rw [hrun] at hclocks
      exact ⟨⟨⟨_, hworker⟩, hclocks, fun _ h => h, fun _ h => .inr h,
        fun _ h => mem_insertTimer.2 (.inr h)⟩, rfl⟩
    next world pause _ hrun =>
      rw [hrun] at hclocks
      have hfinish : ({ host with world } : Host).worker = some worker := hworker
      obtain ⟨hleaves, hhealth⟩ := leaves_finish number hfinish
      exact ⟨⟨hleaves.worker, ⟨hleaves.clocks.1.trans hclocks.1, hleaves.clocks.2.trans hclocks.2⟩,
        hleaves.ready, hleaves.woken, hleaves.timers⟩, hhealth⟩

section

variable (host : Host)

@[simp] theorem world_applyReports : host.applyReports.world = host.world := by
  unfold applyReports
  dsimp only
  split <;> simp

@[simp] theorem worker_applyReports : host.applyReports.worker = host.worker := by
  unfold applyReports
  dsimp only
  split <;> simp

@[simp] theorem running_applyReports : host.applyReports.running = host.running := by
  unfold applyReports
  dsimp only
  split <;> simp

@[simp] theorem timers_applyReports : host.applyReports.timers = host.timers := by
  unfold applyReports
  dsimp only
  split <;> simp

end

theorem leaves_applyReports {host : Host} {worker : Worker} (hworker : host.worker = some worker) :
    host.Leaves worker host.applyReports ∧ host.applyReports.health = host.health.applyQueued ∧
      (.worker ∈ host.applyReports.ready ↔ .worker ∈ host.ready ∨ ∃ due, worker.stage = .reporting due) := by
  obtain ⟨world, health, _, running, started, ready, timers⟩ := host
  cases hworker
  unfold applyReports
  dsimp only [Option.map_some]
  split
  next due hstage =>
    refine ⟨⟨⟨_, worker_wake ..⟩, by simp, fun task h => mem_wake.2 (.inr h), fun task h => ?_, by simp⟩,
      by simp, fun _ => .inr ⟨due, Option.some.inj hstage⟩, fun _ => mem_wake.2 (.inl rfl)⟩
    have hwoken := mem_wake.1 h
    exact hwoken
  next hstage =>
    refine ⟨⟨⟨_, rfl⟩, ⟨rfl, rfl⟩, fun _ h => h, fun _ h => .inr h, fun _ h => h⟩, rfl, .inl, ?_⟩
    rintro (hmem | ⟨due, hdue⟩)
    · exact hmem
    · exact absurd (congrArg some hdue) (hstage due)

/-! ### What a turn can be -/

/-- Why the loop of a worker ends in its turn, and where it then stands. -/
inductive Halts (host : Host) (worker : Worker) : World → WorkerStage → Prop where
  | noPeriod (hstage : worker.stage = .idle) (hperiod : worker.pollInterval.nanos = 0) :
      Halts host worker host.world (.panicked .zeroPeriod)
  | dateless (due : Nat) (p : Panic) (hstage : worker.stage = .reporting due)
      (hdate : HealthStatus.healthyFor host.world.wall worker.health.deadline = .error p) :
      Halts host worker host.world (.panicked p)
  | failed (due : Nat) (world : World) (error : QueueError) (hstage : worker.stage = .polling due)
      (hpoll : (Queue.poll worker.consumer.queue).run.run host.world = (world, .ok (.error error))) :
      Halts host worker world (.failed error)
  | broken (due : Nat) (world : World) (p : Panic) (hstage : worker.stage = .polling due)
      (hpoll : (Queue.poll worker.consumer.queue).run.run host.world = (world, .error p)) :
      Halts host worker world (.panicked p)

/-- Why a worker has nothing to do in its turn. -/
inductive Stays (host : Host) (worker : Worker) : Prop where
  | full (due : Nat) (hstage : worker.stage = .reporting due) (hfull : host.health.isFull = true)
  | unpermitted (reserved : ReservedJob) (hstage : worker.stage = .holding reserved)
      (hpermits : worker.permits = 0)
  | failed (error : QueueError) (hstage : worker.stage = .failed error)
  | panicked (p : Panic) (hstage : worker.stage = .panicked p)

/-- What the loop of a worker can do in its turn, with those that come next. -/
inductive Works (host : Host) (worker : Worker) (rest : List Task) : Host → Prop where
  | begins (hstage : worker.stage = .idle) (hperiod : worker.pollInterval.nanos ≠ 0) :
      Works host worker rest (host.moveTo worker (.waiting host.world.elapsed))
  | sleeps (due : Nat) (hstage : worker.stage = .waiting due) (hdue : ¬host.isDue due = true) :
      Works host worker rest { host.sleep .worker due with ready := rest }
  | wakes (due : Nat) (hstage : worker.stage = .waiting due) (hdue : host.isDue due = true) :
      Works host worker rest (host.moveTo worker (.reporting (due + worker.pollInterval.nanos)))
  | reports (due : Nat) (status : HealthStatus) (hstage : worker.stage = .reporting due)
      (hroom : ¬host.health.isFull = true)
      (hstatus : HealthStatus.healthyFor host.world.wall worker.health.deadline = .ok status) :
      Works host worker rest
        ((host.report ⟨worker.health.component, status⟩).moveTo worker (.polling due))
  | reserves (due : Nat) (world : World) (reserved : ReservedJob) (hstage : worker.stage = .polling due)
      (hpoll : (Queue.poll worker.consumer.queue).run.run host.world =
        (world, .ok (.ok (some reserved)))) :
      Works host worker rest ({ host with world }.moveTo worker (.holding reserved))
  | misses (due : Nat) (world : World) (hstage : worker.stage = .polling due)
      (hpoll : (Queue.poll worker.consumer.queue).run.run host.world = (world, .ok (.ok none))) :
      Works host worker rest ({ host with world }.moveTo worker (.waiting due))
  | starts (reserved : ReservedJob) (left : Nat) (hstage : worker.stage = .holding reserved)
      (hpermits : worker.permits = left + 1) :
      Works host worker rest
        ((host.start worker reserved).moveTo { worker with permits := left } .idle)
  | halts (world : World) (stage : WorkerStage) (h : host.Halts worker world stage) :
      Works host worker rest { { host with world }.moveTo worker stage with ready := rest }
  | stays (h : host.Stays worker) : Works host worker rest { host with ready := rest }

/-- What a turn can be. -/
inductive Turned (host : Host) : Host → Prop where
  | applies {rest : List Task} (hready : host.ready = .reporter :: rest) :
      Turned host { host with ready := rest }.applyReports
  | runs {rest : List Task} (number : Nat) (hready : host.ready = .job number :: rest) :
      Turned host ({ host with ready := rest }.runJob number)
  | idles {rest : List Task} (hready : host.ready = .worker :: rest) (hworker : host.worker = none) :
      Turned host { host with ready := rest }
  | works {rest : List Task} {worker : Worker} {host' : Host} (hready : host.ready = .worker :: rest)
      (hworker : host.worker = some worker) (h : host.Works worker rest host') : Turned host host'

variable {host host' : Host}

/-- The host after a step of the worker, which has its turn no more if it had to wait. -/
def Turn.next : Turn → Host
  | goesOn host => host
  | waits host => { host with ready := host.ready.tail }

theorem works_stepWorker {worker : Worker} {rest : List Task} (hready : host.ready = .worker :: rest) :
    host.Works worker rest (host.stepWorker worker).next := by
  have hwaits : ∀ {after : Host}, after.ready = host.ready →
      host.Works worker rest { after with ready := rest } →
      host.Works worker rest (Turn.waits after).next := by
    intro after hsame h
    rwa [Turn.next, hsame, hready]
  unfold stepWorker
  cases hstage : worker.stage with
  | idle =>
    by_cases hperiod : worker.pollInterval.nanos = 0
    · simp only [if_pos hperiod]
      exact hwaits rfl (.halts host.world _ (.noPeriod hstage hperiod))
    · simp only [if_neg hperiod]
      exact .begins hstage hperiod
  | waiting due =>
    by_cases hdue : host.isDue due = true
    · simp only [if_pos hdue]
      exact .wakes due hstage hdue
    · simp only [if_neg hdue]
      exact hwaits rfl (.sleeps due hstage hdue)
  | reporting due =>
    by_cases hfull : host.health.isFull = true
    · simp only [if_pos hfull]
      exact hwaits rfl (.stays (.full due hstage hfull))
    · simp only [if_neg hfull]
      cases hstatus : HealthStatus.healthyFor host.world.wall worker.health.deadline with
      | ok status => exact .reports due status hstage hfull hstatus
      | error p => exact hwaits rfl (.halts host.world _ (.dateless due p hstage hstatus))
  | polling due =>
    dsimp only
    rcases hpoll : (Queue.poll worker.consumer.queue).run.run host.world with
      ⟨world, p | error | _ | reserved⟩
    · exact hwaits rfl (.halts world _ (.broken due world p hstage hpoll))
    · exact hwaits rfl (.halts world _ (.failed due world error hstage hpoll))
    · exact .misses due world hstage hpoll
    · exact .reserves due world reserved hstage hpoll
  | holding reserved =>
    dsimp only
    cases hpermits : worker.permits with
    | zero => exact hwaits rfl (.stays (.unpermitted reserved hstage hpermits))
    | succ left =>
      rw [← hstage]
      exact .starts reserved left hstage hpermits
  | failed error => exact hwaits rfl (.stays (.failed error hstage))
  | panicked p => exact hwaits rfl (.stays (.panicked p hstage))

/-- Every step of a host is one of these turns. -/
theorem turned_of_step (h : host.step = some host') : host.Turned host' := by
  unfold step at h
  split at h
  case h_1 => cases h
  case h_2 rest hready =>
    obtain rfl := Option.some.inj h
    exact .applies hready
  case h_3 number rest hready =>
    obtain rfl := Option.some.inj h
    exact .runs number hready
  case h_4 rest hready =>
    split at h
    next hworker =>
      obtain rfl := Option.some.inj h
      exact .idles hready hworker
    next worker hworker =>
      refine .works hready hworker ?_
      have hworks : host.Works worker rest (host.stepWorker worker).next := works_stepWorker hready
      cases hturn : host.stepWorker worker with
      | goesOn after | waits after =>
        rw [hturn] at h hworks
        obtain rfl := Option.some.inj h
        exact hworks

/-! ### Turns take no time -/

theorem world_finish (number : Nat) : (host.finish number).world = host.world := by
  unfold finish
  dsimp only
  repeat' split
  all_goals simp

theorem clocks_runJob (number : Nat) :
    (host.runJob number).world.wall = host.world.wall ∧
      (host.runJob number).world.elapsed = host.world.elapsed := by
  unfold runJob
  split
  next => exact ⟨rfl, rfl⟩
  next job _ =>
    have hclocks := job.rest.clocks_runUntilDelay host.world
    split
    next hrun =>
      rw [hrun] at hclocks
      exact hclocks
    next hrun =>
      rw [hrun] at hclocks
      rw [world_finish]
      exact hclocks

theorem Works.clocks {worker : Worker} {rest : List Task} (h : host.Works worker rest host') :
    host'.world.wall = host.world.wall ∧ host'.world.elapsed = host.world.elapsed := by
  have hpolls := Program.clocks_run (Queue.poll worker.consumer.queue).run host.world
  cases h with
  | reports | starts => exact ⟨congrArg World.wall (world_wake _ _), congrArg World.elapsed (world_wake _ _)⟩
  | reserves _ _ _ _ hpoll | misses _ _ _ hpoll =>
    rw [hpoll] at hpolls
    exact hpolls
  | halts _ _ hhalts =>
    cases hhalts with
    | noPeriod | dateless => exact ⟨rfl, rfl⟩
    | failed _ _ _ _ hpoll | broken _ _ _ _ hpoll =>
      rw [hpoll] at hpolls
      exact hpolls
  | begins | sleeps | wakes | stays => exact ⟨rfl, rfl⟩

theorem clocks_of_step (h : host.step = some host') :
    host'.world.wall = host.world.wall ∧ host'.world.elapsed = host.world.elapsed := by
  cases turned_of_step h with
  | applies => exact ⟨congrArg World.wall (world_applyReports _), congrArg World.elapsed (world_applyReports _)⟩
  | runs number => exact clocks_runJob number
  | idles => exact ⟨rfl, rfl⟩
  | works _ _ hworks => exact hworks.clocks

end Host

end JobQueue
