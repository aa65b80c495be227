import JobQueue.Proofs.Worker.Turns
import Mathlib.Algebra.GroupWithZero.Nat

/-! Turns at one moment come to an end. A worker without permits goes from poll to poll only as far as its polls are
due, and between these it waits for time to pass, for the reporter or for a permit. -/

namespace JobQueue

open Time (nanosPerMilli)

/-- The last time that is due. -/
def Host.lastDue (elapsed : Nat) : Nat :=
  elapsed / nanosPerMilli * nanosPerMilli

/-- How many more stages a worker without permits goes through at most before time passes. The four stages from one
poll to the next bring the time of the poll closer to the last one that is due. -/
def WorkerStage.effort (elapsed : Nat) : WorkerStage → Nat
  | .idle => 6
  | .waiting due => 4 * (Host.lastDue elapsed + 1 - due) + 1
  | .reporting due => 4 * (Host.lastDue elapsed + 1 - due) + 3
  | .polling due => 4 * (Host.lastDue elapsed + 1 - due) + 2
  | .holding _ | .failed _ | .panicked _ => 0

/-- The turn of the reporter may give one to the worker. -/
def Task.effort : Task → Nat
  | .reporter => 2
  | .worker | .job _ => 1

namespace Host

variable {host host' : Host} {worker : Worker} {rest : List Task}

/-- A stage may give a turn to the reporter, for which it counts three times. -/
def effort (host : Host) (stage : WorkerStage) : Nat :=
  3 * stage.effort host.world.elapsed + (host.ready.map Task.effort).sum

theorem lastDue_le (elapsed : Nat) : lastDue elapsed ≤ elapsed :=
  Nat.div_mul_le_self ..

theorem le_lastDue {due : Nat} (h : host.isDue due = true) : due ≤ lastDue host.world.elapsed := by
  have hticks : tickOf due ≤ host.world.elapsed / nanosPerMilli := decide_eq_true_iff.1 h
  exact (le_tickOf due).trans (Nat.mul_le_mul_right _ hticks)

theorem effort_wake_le (host : Host) (task : Task) (stage : WorkerStage) :
    (host.wake task).effort stage ≤ host.effort stage + task.effort := by
  rw [effort, effort, world_wake]
  unfold wake
  split
  · omega
  · simp only [List.map_append, List.sum_append, List.map_cons, List.map_nil, List.sum_singleton]
    omega

/-- A task that has had its turn leaves less to do. -/
theorem effort_rest {task : Task} (hready : host.ready = task :: rest) (stage : WorkerStage) :
    ({ host with ready := rest } : Host).effort stage + task.effort = host.effort stage := by
  simp only [effort, hready, List.map_cons, List.sum_cons]
  omega

/-- The reporter leaves less to do, even if it gives a turn to the worker. -/
theorem effort_applyReports_lt (hready : host.ready = .reporter :: rest) (stage : WorkerStage) :
    ({ host with ready := rest } : Host).applyReports.effort stage < host.effort stage := by
  have hrest := effort_rest hready stage
  have htask : Task.effort .reporter = 2 := rfl
  have hworker : Task.effort .worker = 1 := rfl
  have hsame : ({ host with ready := rest, health := host.health.applyQueued } : Host).effort stage =
      ({ host with ready := rest } : Host).effort stage := rfl
  unfold applyReports
  dsimp only
  split
  · have hwake := effort_wake_le ({ host with ready := rest, health := host.health.applyQueued } : Host) .worker stage
    omega
  · omega

/-- A worker that goes on to another stage at the same time, and keeps its turn, has fewer stages before it. -/
theorem effort_lt_of_stage {stage stage' : WorkerStage} (hready : host'.ready = host.ready)
    (helapsed : host'.world.elapsed = host.world.elapsed)
    (h : stage'.effort host.world.elapsed < stage.effort host.world.elapsed) :
    host'.effort stage' < host.effort stage := by
  rw [effort, effort, hready, helapsed]
  omega

/-- A worker that has no turn any more leaves less to do, if it has no more stages before it. -/
theorem effort_lt_of_rest {stage stage' : WorkerStage} (hready : host.ready = .worker :: rest)
    (hrest : host'.ready = rest) (helapsed : host'.world.elapsed = host.world.elapsed)
    (h : stage'.effort host.world.elapsed ≤ stage.effort host.world.elapsed) :
    host'.effort stage' < host.effort stage := by
  have htask : Task.effort .worker = 1 := rfl
  rw [effort, effort, hrest, hready, helapsed, List.map_cons, List.sum_cons]
  omega

/-- A loop that ends has no stages before it. -/
theorem Halts.effort_eq {world : World} {stage : WorkerStage} (h : host.Halts worker world stage) (elapsed : Nat) :
    stage.effort elapsed = 0 := by
  cases h <;> rfl

/-- Whatever a worker without permits does in its turn, less is left to do, and no job is started. -/
theorem Works.exists_effort_lt (h : host.Works worker rest host') (hready : host.ready = .worker :: rest)
    (hworker : host.worker = some worker) (hinterval : worker.pollInterval.nanos ≠ 0)
    (hpermits : worker.permits = 0) :
    ∃ stage, host'.worker = some { worker with stage := stage } ∧ host'.running = host.running ∧
      host'.effort stage < host.effort worker.stage := by
  have helapsed := h.clocks.2
  cases h with
  | begins hstage hperiod =>
    refine ⟨_, rfl, rfl, effort_lt_of_stage rfl helapsed ?_⟩
    have hlast := lastDue_le host.world.elapsed
    rw [hstage, WorkerStage.effort, WorkerStage.effort]
    omega
  | sleeps due hstage hdue => exact ⟨_, hworker, rfl, effort_lt_of_rest hready rfl helapsed (Nat.le_refl _)⟩
  | wakes due hstage hdue =>
    refine ⟨_, rfl, rfl, effort_lt_of_stage rfl helapsed ?_⟩
    have hlast := le_lastDue hdue
    rw [hstage, WorkerStage.effort, WorkerStage.effort]
    omega
  | reports due status hstage hroom hstatus =>
    refine ⟨_, rfl, running_wake _ _, ?_⟩
    have hwake := effort_wake_le { host with health := host.health.enqueue ⟨worker.health.component, status⟩ }
      .reporter (.polling due)
    have htask : Task.effort .reporter = 2 := rfl
    have hstages : host.effort worker.stage = host.effort (.polling due) + 3 := by
      rw [hstage, effort, effort, WorkerStage.effort, WorkerStage.effort]
      omega
    rw [hstages]
    exact Nat.lt_of_le_of_lt hwake (by rw [htask]; exact Nat.lt_succ_self _)
  | reserves due world reserved hstage hpoll =>
    refine ⟨_, rfl, rfl, effort_lt_of_stage rfl helapsed ?_⟩
    rw [hstage, WorkerStage.effort, WorkerStage.effort]
    omega
  | misses due world hstage hpoll =>
    refine ⟨_, rfl, rfl, effort_lt_of_stage rfl helapsed ?_⟩
    rw [hstage, WorkerStage.effort, WorkerStage.effort]
    omega
  | starts reserved left hstage hleft => cases hpermits.symm.trans hleft
  | halts world stage hhalts =>
    refine ⟨stage, rfl, rfl, effort_lt_of_rest hready rfl helapsed ?_⟩
    rw [hhalts.effort_eq]
    exact Nat.zero_le _
  | stays hstays => exact ⟨_, hworker, rfl, effort_lt_of_rest hready rfl helapsed (Nat.le_refl _)⟩

/-- So does every turn of a host with such a worker that runs no job. -/
theorem exists_effort_lt_of_step (h : host.step = some host') (hworker : host.worker = some worker)
    (hrunning : host.running = []) (hinterval : worker.pollInterval.nanos ≠ 0) (hpermits : worker.permits = 0) :
    ∃ stage, host'.worker = some { worker with stage := stage } ∧ host'.running = [] ∧
      host'.effort stage < host.effort worker.stage := by
  cases turned_of_step h with
  | applies hready =>
    exact ⟨worker.stage, (worker_applyReports _).trans hworker, (running_applyReports _).trans hrunning,
      effort_applyReports_lt hready worker.stage⟩
  | @runs rest number hready =>
    have hsame : ({ host with ready := rest } : Host).runJob number = { host with ready := rest } := by
      rw [runJob, hrunning]
      rfl
    have hrest := effort_rest hready worker.stage
    have htask : Task.effort (.job number) = 1 := rfl
    rw [hsame]
    exact ⟨worker.stage, hworker, hrunning, by omega⟩
  | idles hready hnone => cases hworker.symm.trans hnone
  | works hready hworker' hworks =>
    obtain rfl := Option.some.inj (hworker.symm.trans hworker')
    obtain ⟨stage, hstage, hsame, hlt⟩ := hworks.exists_effort_lt hready hworker hinterval hpermits
    exact ⟨stage, hstage, hsame.trans hrunning, hlt⟩

theorem step_eq_none : host.step = none ↔ host.ready = [] := by
  unfold step
  split
  next hready => simp [hready]
  next hready => simp [hready]
  next hready => simp [hready]
  next hready =>
    simp only [hready, List.cons_ne_nil, iff_false]
    split
    · exact nofun
    · split <;> exact nofun

/-- A host with such a worker comes to rest after no more turns than there is left to do. -/
theorem ready_settle {turns : Nat} (hworker : host.worker = some worker) (hrunning : host.running = [])
    (hinterval : worker.pollInterval.nanos ≠ 0) (hpermits : worker.permits = 0)
    (h : host.effort worker.stage ≤ turns) : (host.settle turns).ready = [] := by
  induction turns generalizing host worker with
  | zero =>
    change host.ready = []
    refine step_eq_none.1 (Option.eq_none_iff_forall_ne_some.2 fun host' hstep => ?_)
    obtain ⟨stage, -, -, hlt⟩ := exists_effort_lt_of_step hstep hworker hrunning hinterval hpermits
    omega
  | succ turns ih =>
    rw [settle]
    cases hstep : host.step with
    | none => exact step_eq_none.1 hstep
    | some host' =>
      obtain ⟨stage, hworker', hrunning', hlt⟩ :=
        exists_effort_lt_of_step hstep hworker hrunning hinterval hpermits
      exact ih hworker' hrunning' hinterval hpermits (Nat.le_of_lt_succ (Nat.lt_of_lt_of_le hlt h))

theorem clocks_settle (turns : Nat) (host : Host) :
    (host.settle turns).world.wall = host.world.wall ∧ (host.settle turns).world.elapsed = host.world.elapsed := by
  induction turns generalizing host with
  | zero => exact ⟨rfl, rfl⟩
  | succ turns ih =>
    rw [settle]
    cases hstep : host.step with
    | none => exact ⟨rfl, rfl⟩
    | some host' =>
      obtain ⟨hwall, helapsed⟩ := clocks_of_step hstep
      exact ⟨(ih host').1.trans hwall, (ih host').2.trans helapsed⟩

end Host

end JobQueue
