import JobQueue.Proofs.Health.Reports
import JobQueue.Proofs.Worker.Concurrency
import JobQueue.Proofs.Worker.Turns

/-! When a running worker shows as stalled. It reports its health with every poll, but between two polls it
may have to wait until a permit is free for the job that it reserved. Hosts are watched whose tasks are
never late, with the times for which jobs have waited for their permits. -/

namespace JobQueue

open Time (Duration nanosPerMilli)

/-- The loop of a worker has returned or panicked. -/
def WorkerStage.isOver : WorkerStage → Bool
  | failed _ => true
  | panicked _ => true
  | _ => false

/-! ### Hosts whose tasks are never late -/

namespace Host

/-- The job for which the worker has no permit yet. -/
def held (host : Host) : Option ReservedJob :=
  host.worker.bind fun worker => worker.stage.held

/-- What can go on in a host whose tasks are never late: time passes only while no task can go on, and only
up to the next timer. Others use the stores, ask for more or less work, and report for themselves. -/
inductive Proceeds (name : String) (host : Host) : Host → Prop where
  | turns {host' : Host} (h : host.step = some host') : Proceeds name host host'
  | elapses (nanos : Nat) (hready : host.ready = [])
      (htimers : ∀ timer ∈ host.timers, host.world.elapsed + nanos ≤ timer.tick * nanosPerMilli) :
      Proceeds name host (host.advance nanos)
  | hears (report : HealthReport) (hname : report.component ≠ name)
      (hroom : ¬host.health.isFull = true) : Proceeds name host (host.report report)
  | shares (jobs : Client) (deadLetters : Option Client) (rules : List ServiceRule) :
      Proceeds name host { host with world := { host.world with jobs, deadLetters, rules } }

/-- The time is a whole number of milliseconds. -/
def OnTick (host : Host) : Prop :=
  nanosPerMilli ∣ host.world.elapsed

theorem onTick_of_isDue {host : Host} (h : host.isDue host.world.elapsed = true) : host.OnTick := by
  rw [isDue_iff] at h
  have := le_tickOf host.world.elapsed
  exact ⟨tickOf host.world.elapsed, by rw [Nat.mul_comm]; omega⟩

theorem isDue_of_onTick {host : Host} (h : host.OnTick) : host.isDue host.world.elapsed = true := by
  obtain ⟨ticks, hticks⟩ := h
  rw [Nat.mul_comm] at hticks
  rw [isDue_iff, hticks, tickOf_mul]

end Host

/-- A host, with the time at which its worker last came to hold a job, and the longest time for which a job
has waited for its permit so far. -/
structure Attended where
  host : Host
  since : Nat
  longest : Nat

namespace Attended

/-- The host goes on. -/
def note (m : Attended) (host : Host) : Attended :=
  let since := if m.host.held.isNone ∧ host.held.isSome then host.world.elapsed else m.since
  ⟨host, since, if host.held.isSome then max m.longest (host.world.elapsed - since) else m.longest⟩

/-- A worker that was just started. -/
def start (world : World) (consumer : Consumer) (pollInterval : Duration) (handle : HealthHandle) : Attended :=
  ⟨(Host.new world).startWorker consumer pollInterval handle, world.elapsed, 0⟩

inductive Step (name : String) : Attended → Attended → Prop where
  | mk {m : Attended} {host : Host} (h : m.host.Proceeds name host) : Step name m (m.note host)

/-- Any number of steps. -/
abbrev Run (name : String) : Attended → Attended → Prop :=
  Relation.ReflTransGen (Step name)

@[simp] theorem note_host (m : Attended) (host : Host) : (m.note host).host = host := rfl

theorem longest_le_note (m : Attended) (host : Host) : m.longest ≤ (m.note host).longest := by
  unfold note
  dsimp only
  split
  · exact Nat.le_max_left ..
  · exact Nat.le_refl _

theorem since_note_of_held {m : Attended} {host : Host} (h : m.host.held.isSome = true) :
    (m.note host).since = m.since :=
  if_neg fun hnone => by simp [Option.isNone_iff_eq_none.1 hnone.1] at h

theorem since_note_of_reserved {m : Attended} {host : Host} (h : m.host.held = none)
    (hheld : host.held.isSome = true) : (m.note host).since = host.world.elapsed :=
  if_pos ⟨by simp [h], hheld⟩

/-- A job that is held has not waited longer than the longest time. -/
theorem waited_le_longest {m : Attended} {host : Host} (hheld : host.held.isSome = true) :
    host.world.elapsed - (m.note host).since ≤ (m.note host).longest := by
  unfold note
  dsimp only
  rw [if_pos hheld]
  exact Nat.le_max_right ..

/-! ### What is kept -/

section

variable (handle : HealthHandle) (offset : Int)

/-- A status does not expire before a poll that is due at a time. -/
def Outlasts (last : HealthStatus) (due : Nat) : Prop :=
  last = .starting ∨ ∃ deadline, last = .healthyUntil deadline ∧
    offset + (Host.tickOf due * nanosPerMilli : Nat) < deadline

/-- Where the loop of a worker stands, with what is then to come and the status that it reported last. -/
def Awaits (m : Attended) (last : HealthStatus) : WorkerStage → Prop
  | .idle => .worker ∈ m.host.ready
  | .waiting due =>
    (.worker ∈ m.host.ready ∧ (Outlasts offset last due ∨ m.host.isDue due = true)) ∨
      (⟨Host.tickOf due, .worker⟩ ∈ m.host.timers ∧ Outlasts offset last due ∧
        m.host.world.elapsed ≤ Host.tickOf due * nanosPerMilli)
  | .reporting due => m.host.OnTick ∧ (.worker ∈ m.host.ready ∨ .reporter ∈ m.host.ready) ∧
      (Host.tickOf due * nanosPerMilli : Nat) < m.host.world.elapsed + handle.deadline.nanos
  | .polling due => .worker ∈ m.host.ready ∧
      last = .healthyUntil (offset + m.host.world.elapsed + handle.deadline.nanos) ∧
      (Host.tickOf due * nanosPerMilli : Nat) < m.host.world.elapsed + handle.deadline.nanos
  | .holding _ => m.since ≤ m.host.world.elapsed ∧ last = .healthyUntil (offset + m.since + handle.deadline.nanos)
  | .failed _ => True
  | .panicked _ => True

/-- A status has not expired, unless a job has waited for its permit until it did. -/
def Timely (m : Attended) (status : HealthStatus) : Prop :=
  status = .starting ∨ ∃ deadline, status = .healthyUntil deadline ∧
    (m.host.world.wall < deadline ∨ handle.deadline.nanos ≤ m.longest)

/-- What a registry knows of the worker was reported in time. -/
structure Reported (m : Attended) (registry : HealthRegistry) (last : HealthStatus) : Prop where
  latest : registry.latest? handle.component = some last
  applied : ∀ status, registry.applied? handle.component = some status → Timely handle m status
  queued : ∀ report ∈ registry.queued, report.component = handle.component → Timely handle m report.status

/-- A worker whose reports are never late, but for jobs that wait for permits. -/
structure Punctual (m : Attended) (worker : Worker) (last : HealthStatus) : Prop where
  reported : Reported handle m m.host.health last
  reporter : m.host.health.queued ≠ [] → .reporter ∈ m.host.ready
  jobs : ∀ number, .job number ∈ m.host.ready → m.host.OnTick
  /-- The worker has its turns on whole milliseconds, but for its first ones. -/
  woken : .worker ∈ m.host.ready → m.host.OnTick ∨ worker.stage = .waiting m.host.world.elapsed ∨
    worker.stage = .idle ∧ last = .starting
  stage : Awaits handle offset m last worker.stage

/-- The host has a worker with a handle and an interval, whose loop is over or punctual. -/
def Sound (pollInterval : Duration) (m : Attended) : Prop :=
  m.host.world.wall = offset + m.host.world.elapsed ∧
    ∃ worker, m.host.worker = some worker ∧ worker.health = handle ∧ worker.pollInterval = pollInterval ∧
      (worker.stage.isOver = true ∨ ∃ last, Punctual handle offset m worker last)

end

variable {world : World} {consumer : Consumer} {pollInterval : Duration} {handle : HealthHandle}
  {offset : Int} {m m' : Attended} {host : Host} {worker worker' : Worker} {last : HealthStatus}

/-! ### Turns -/

theorem Timely.mono {status : HealthStatus} (h : Timely handle m status)
    (hwall : m'.host.world.wall = m.host.world.wall) (hlongest : m.longest ≤ m'.longest) :
    Timely handle m' status := by
  obtain hstarting | ⟨deadline, hstatus, hlater | hwaited⟩ := h
  · exact .inl hstarting
  · exact .inr ⟨deadline, hstatus, .inl (hwall ▸ hlater)⟩
  · exact .inr ⟨deadline, hstatus, .inr (Int.le_trans hwaited (mod_cast hlongest))⟩

theorem Reported.applyQueued {registry : HealthRegistry} (h : Reported handle m registry last) :
    Reported handle m registry.applyQueued last :=
  ⟨HealthRegistry.latest?_applyQueued.trans h.latest, HealthRegistry.of_latest? h.applied h.queued,
    fun _ hreport => absurd hreport List.not_mem_nil⟩

theorem Reported.enqueue {registry : HealthRegistry} {report : HealthReport} (h : Reported handle m registry last)
    (htimely : report.component = handle.component → Timely handle m report.status) :
    Reported handle m (registry.enqueue report)
      (if handle.component = report.component then report.status else last) := by
  refine ⟨?_, h.applied, fun other hother hname => ?_⟩
  · rw [HealthRegistry.latest?_enqueue, h.latest]
    split <;> rfl
  · obtain hold | hnew := List.mem_append.1 hother
    · exact h.queued other hold hname
    · obtain rfl := List.mem_singleton.1 hnew
      exact htimely hname

/-- While no time passes, a worker is punctual by what was timely before. -/
theorem Punctual.renew {last' : HealthStatus}
    (hclocks : host.world.wall = m.host.world.wall ∧ host.world.elapsed = m.host.world.elapsed)
    (hreported : Reported handle m host.health last')
    (hreporter : host.health.queued ≠ [] → .reporter ∈ host.ready)
    (hjobs : ∀ number, .job number ∈ host.ready → m.host.OnTick)
    (hwoken : .worker ∈ host.ready → m.host.OnTick ∨ worker'.stage = .waiting m.host.world.elapsed ∨
      worker'.stage = .idle ∧ last' = .starting)
    (hstage : Awaits handle offset (m.note host) last' worker'.stage) :
    Punctual handle offset (m.note host) worker' last' := by
  have htimely : ∀ status, Timely handle m status → Timely handle (m.note host) status :=
    fun status hstatus => hstatus.mono hclocks.1 (m.longest_le_note host)
  refine ⟨⟨hreported.latest, fun status hstatus => htimely status (hreported.applied status hstatus),
    fun report hreport hname => htimely _ (hreported.queued report hreport hname)⟩, hreporter, ?_, ?_, hstage⟩
  · unfold Host.OnTick
    rw [note_host, hclocks.2]
    exact hjobs
  · unfold Host.OnTick
    rw [note_host, hclocks.2]
    exact hwoken

/-- What neither reports nor takes time keeps a worker punctual, if its stage and its turns fit. -/
theorem Punctual.moves (h : Punctual handle offset m worker last) (hhealth : host.health = m.host.health)
    (hclocks : host.world.wall = m.host.world.wall ∧ host.world.elapsed = m.host.world.elapsed)
    (hreporter : .reporter ∈ m.host.ready → .reporter ∈ host.ready)
    (hjobs : ∀ number, .job number ∈ host.ready → m.host.OnTick)
    (hwoken : .worker ∈ host.ready → m.host.OnTick ∨ worker'.stage = .waiting m.host.world.elapsed ∨
      worker'.stage = .idle ∧ last = .starting)
    (hstage : Awaits handle offset (m.note host) last worker'.stage) :
    Punctual handle offset (m.note host) worker' last := by
  refine .renew hclocks ?_ ?_ hjobs hwoken hstage <;> rw [hhealth]
  · exact h.reported
  · exact fun hqueued => hreporter (h.reporter hqueued)

/-- A report of the worker itself. -/
theorem Punctual.reports {due : Nat} {status : HealthStatus}
    (h : Punctual handle offset m worker last) (hclock : m.host.world.wall = offset + m.host.world.elapsed)
    (hhandle : worker.health = handle) (hpositive : 0 < handle.deadline.nanos) (hstage : worker.stage = .reporting due)
    (hready : .worker ∈ m.host.ready)
    (hstatus : HealthStatus.healthyFor m.host.world.wall worker.health.deadline = .ok status) :
    Punctual handle offset
      (m.note ((m.host.report ⟨worker.health.component, status⟩).moveTo worker (.polling due)))
      { worker with stage := .polling due } status ∧
      status = .healthyUntil (offset + m.host.world.elapsed + handle.deadline.nanos) := by
  obtain ⟨hticks, -, hbound⟩ : m.host.OnTick ∧ _ ∧ _ := hstage ▸ h.stage
  obtain rfl := hhandle
  have hmeans : status = .healthyUntil (offset + m.host.world.elapsed + worker.health.deadline.nanos) := by
    rw [(HealthStatus.healthyFor_eq_ok.1 hstatus).2.2, hclock]
  refine ⟨?_, hmeans⟩
  generalize hafter : (m.host.report ⟨worker.health.component, status⟩).moveTo worker (.polling due) = after
  have hhealth : after.health = m.host.health.enqueue ⟨worker.health.component, status⟩ := by
    rw [← hafter]
    exact Host.health_wake _ _
  have hworld : after.world = m.host.world := by
    rw [← hafter]
    exact Host.world_wake _ _
  have hwoken : ∀ task, task ∈ after.ready ↔ task = .reporter ∨ task ∈ m.host.ready := by
    intro task
    rw [← hafter]
    exact Host.mem_wake
  have htimely : Timely worker.health m status := .inr ⟨_, hmeans, .inl (by omega)⟩
  refine .renew ⟨congrArg World.wall hworld, congrArg World.elapsed hworld⟩ ?_
    (fun _ => (hwoken _).2 (.inl rfl)) (fun _ _ => hticks) (fun _ => .inl hticks) ?_
  · have hreported : Reported worker.health m (m.host.health.enqueue ⟨worker.health.component, status⟩)
        (if worker.health.component = worker.health.component then status else last) :=
      h.reported.enqueue fun _ => htimely
    rwa [if_pos rfl, ← hhealth] at hreported
  · refine ⟨(hwoken _).2 (.inr hready), ?_⟩
    rw [note_host, hworld]
    exact ⟨hmeans, hbound⟩

/-- The turns of a worker are on whole milliseconds, but for the first ones. -/
theorem Punctual.onTick (h : Punctual handle offset m worker last) (hfirst : .worker ∈ m.host.ready)
    (hidle : worker.stage ≠ .idle) (hwaiting : ∀ due, worker.stage = .waiting due → m.host.isDue due = true) :
    m.host.OnTick := by
  obtain hticks | hnow | ⟨hstage, -⟩ := h.woken hfirst
  · exact hticks
  · exact Host.onTick_of_isDue (hwaiting _ hnow)
  · exact absurd hstage hidle

/-- The first poll is due at once. -/
theorem Punctual.begins (h : Punctual handle offset m worker last) (hstage : worker.stage = .idle)
    (hfirst : .worker ∈ m.host.ready) :
    Punctual handle offset (m.note (m.host.moveTo worker (.waiting m.host.world.elapsed)))
      { worker with stage := .waiting m.host.world.elapsed } last := by
  refine h.moves rfl ⟨rfl, rfl⟩ id h.jobs (fun _ => .inr (.inl rfl)) (.inl ⟨hfirst, ?_⟩)
  obtain hticks | hwaiting | ⟨-, hstarting⟩ := h.woken hfirst
  · exact .inr (Host.isDue_of_onTick hticks)
  · cases hstage.symm.trans hwaiting
  · exact .inl (.inl hstarting)

/-- A worker that stays at its stage gives up its turn and no other one. -/
theorem Punctual.rests {rest : List Task} (h : Punctual handle offset m worker last)
    (hready : m.host.ready = .worker :: rest) (hrest : host.ready = rest) (hhealth : host.health = m.host.health)
    (hworld : host.world = m.host.world) (hstage : Awaits handle offset (m.note host) last worker.stage) :
    Punctual handle offset (m.note host) worker last := by
  have hbefore : ∀ task, task ∈ host.ready → task ∈ m.host.ready := by
    rw [hrest, hready]
    exact fun _ htask => .tail _ htask
  refine h.moves hhealth ⟨congrArg World.wall hworld, congrArg World.elapsed hworld⟩ (fun hmem => ?_)
    (fun n hn => h.jobs n (hbefore _ hn)) (fun hmem => h.woken (hbefore _ hmem)) hstage
  rw [hready] at hmem
  rw [hrest]
  exact (List.mem_cons.1 hmem).resolve_left nofun

/-- A worker whose poll is not due waits for a timer. -/
theorem Punctual.sleeps {due : Nat} {rest : List Task} (h : Punctual handle offset m worker last)
    (hready : m.host.ready = .worker :: rest) (hstage : worker.stage = .waiting due)
    (hdue : ¬m.host.isDue due = true) :
    Punctual handle offset (m.note { m.host.sleep .worker due with ready := rest }) worker last := by
  have hawaits := h.stage
  refine h.rests hready rfl rfl rfl ?_
  rw [hstage] at hawaits ⊢
  have hlater : ¬Host.tickOf due * nanosPerMilli ≤ m.host.world.elapsed := fun h => hdue (Host.isDue_iff.2 h)
  refine .inr ⟨Host.mem_insertTimer.2 (.inl rfl), ?_, Nat.le_of_not_le hlater⟩
  obtain ⟨-, houtlasts | hnow⟩ | ⟨-, houtlasts, -⟩ := hawaits
  · exact houtlasts
  · exact absurd hnow hdue
  · exact houtlasts

/-- The next poll is due an interval after this one, which was not due later than now. -/
theorem Punctual.wakes {due : Nat} (h : Punctual handle offset m worker last)
    (hinterval : (Host.tickOf worker.pollInterval.nanos * nanosPerMilli : Nat) < handle.deadline.nanos)
    (hfirst : .worker ∈ m.host.ready) (hstage : worker.stage = .waiting due) (hdue : m.host.isDue due = true) :
    Punctual handle offset (m.note (m.host.moveTo worker (.reporting (due + worker.pollInterval.nanos))))
      { worker with stage := .reporting (due + worker.pollInterval.nanos) } last := by
  have hticks : m.host.OnTick := by
    refine h.onTick hfirst (by rw [hstage]; exact nofun) fun due' hwaiting => ?_
    obtain rfl := WorkerStage.waiting.inj (hstage.symm.trans hwaiting)
    exact hdue
  have hbound : (Host.tickOf (due + worker.pollInterval.nanos) * nanosPerMilli : Nat) <
      m.host.world.elapsed + handle.deadline.nanos := by
    have hnext := Host.tickOf_add_le due worker.pollInterval.nanos
    have hnow := Host.isDue_iff.1 hdue
    have hscaled := Nat.mul_le_mul_right nanosPerMilli hnext
    rw [Nat.add_mul] at hscaled
    omega
  exact h.moves rfl ⟨rfl, rfl⟩ id h.jobs (fun _ => .inl hticks) ⟨hticks, .inl hfirst, hbound⟩

/-- The wait for a permit begins with the poll that reserves a job. -/
theorem Punctual.reserves {due : Nat} {after : World} {reserved : ReservedJob}
    (h : Punctual handle offset m worker last) (hworker : m.host.worker = some worker)
    (hfirst : .worker ∈ m.host.ready) (hstage : worker.stage = .polling due)
    (hclocks : after.wall = m.host.world.wall ∧ after.elapsed = m.host.world.elapsed) :
    Punctual handle offset (m.note ({ m.host with world := after }.moveTo worker (.holding reserved)))
      { worker with stage := .holding reserved } last := by
  obtain ⟨-, hlast, -⟩ : _ ∧ last = _ ∧ _ := hstage ▸ h.stage
  have hticks : m.host.OnTick :=
    h.onTick hfirst (by rw [hstage]; exact nofun) (by rw [hstage]; exact nofun)
  have hfree : m.host.held = none := by
    rw [Host.held, hworker, Option.bind_some, hstage]
    rfl
  have hsince : (m.note ({ m.host with world := after }.moveTo worker (.holding reserved))).since = after.elapsed :=
    since_note_of_reserved hfree rfl
  refine h.moves rfl hclocks id h.jobs (fun _ => .inl hticks) ⟨by rw [hsince]; exact Nat.le_refl _, ?_⟩
  rw [hlast, hsince]
  exact congrArg (fun elapsed : Nat => HealthStatus.healthyUntil (offset + elapsed + handle.deadline.nanos))
    hclocks.2.symm

/-- After a poll without a job, the last report outlasts the time to the next one. -/
theorem Punctual.misses {due : Nat} {after : World} (h : Punctual handle offset m worker last)
    (hfirst : .worker ∈ m.host.ready) (hstage : worker.stage = .polling due)
    (hclocks : after.wall = m.host.world.wall ∧ after.elapsed = m.host.world.elapsed) :
    Punctual handle offset (m.note ({ m.host with world := after }.moveTo worker (.waiting due)))
      { worker with stage := .waiting due } last := by
  obtain ⟨-, hlast, hbound⟩ : _ ∧ last = _ ∧ _ := hstage ▸ h.stage
  have hticks : m.host.OnTick :=
    h.onTick hfirst (by rw [hstage]; exact nofun) (by rw [hstage]; exact nofun)
  exact h.moves rfl hclocks id h.jobs (fun _ => .inl hticks)
    (.inl ⟨hfirst, .inl (.inr ⟨_, hlast, by omega⟩)⟩)

/-- A job that gets a permit has its first turn after the worker. -/
theorem Punctual.starts {reserved : ReservedJob} (h : Punctual handle offset m worker last) (left : Nat)
    (hfirst : .worker ∈ m.host.ready) (hstage : worker.stage = .holding reserved) :
    Punctual handle offset (m.note ((m.host.start worker reserved).moveTo { worker with permits := left } .idle))
      { worker with permits := left, stage := .idle } last := by
  have hticks : m.host.OnTick :=
    h.onTick hfirst (by rw [hstage]; exact nofun) (by rw [hstage]; exact nofun)
  have hworld : (m.host.start worker reserved).world = m.host.world := Host.world_wake _ _
  exact h.moves (Host.health_wake _ _) ⟨congrArg World.wall hworld, congrArg World.elapsed hworld⟩
    (fun hmem => Host.mem_wake.2 (.inr hmem)) (fun _ _ => hticks) (fun _ => .inl hticks)
    (Host.mem_wake.2 (.inr hfirst))

/-- A worker that has nothing to do waits for the reporter or for a permit, or its loop is over. -/
theorem Punctual.stays {rest : List Task} (h : Punctual handle offset m worker last)
    (hready : m.host.ready = .worker :: rest) (hworker : m.host.worker = some worker)
    (hstays : m.host.Stays worker) :
    worker.stage.isOver = true ∨ Punctual handle offset (m.note { m.host with ready := rest }) worker last := by
  have hawaits := h.stage
  have hmoves := @Punctual.rests handle offset m { m.host with ready := rest } worker last rest h hready rfl rfl rfl
  cases hstays with
  | full due hstage hfull =>
    rw [hstage] at hawaits hmoves
    obtain ⟨hticks, -, hbound⟩ := hawaits
    have hqueued : m.host.health.queued ≠ [] := by
      intro hnil
      simp [HealthRegistry.isFull, HealthRegistry.capacity, hnil] at hfull
    have hreporter : .reporter ∈ rest := by
      have hmem := h.reporter hqueued
      rw [hready] at hmem
      exact (List.mem_cons.1 hmem).resolve_left nofun
    exact .inr (hmoves ⟨hticks, .inr hreporter, hbound⟩)
  | unpermitted reserved hstage hpermits =>
    have hheld : m.host.held.isSome = true := by
      rw [Host.held, hworker, Option.bind_some, hstage]
      rfl
    rw [hstage] at hawaits hmoves
    refine .inr (hmoves ?_)
    unfold Awaits
    rw [since_note_of_held hheld]
    exact hawaits
  | failed error hstage | panicked p hstage =>
    rw [hstage]
    exact .inl rfl

/-- Whatever the worker does in its turn, it stays punctual until its loop is over. -/
theorem Punctual.works {rest : List Task} {host : Host}
    (h : Punctual handle offset m worker last) (hclock : m.host.world.wall = offset + m.host.world.elapsed)
    (hworker : m.host.worker = some worker) (hhandle : worker.health = handle)
    (hinterval : (Host.tickOf worker.pollInterval.nanos * nanosPerMilli : Nat) < handle.deadline.nanos)
    (hready : m.host.ready = .worker :: rest) (hworks : m.host.Works worker rest host) :
    ∃ worker', host.worker = some worker' ∧ worker'.health = handle ∧
      worker'.pollInterval = worker.pollInterval ∧
      (worker'.stage.isOver = true ∨ ∃ last, Punctual handle offset (m.note host) worker' last) := by
  have hfirst : .worker ∈ m.host.ready := hready ▸ .head _
  cases hworks with
  | begins hstage => exact ⟨_, rfl, hhandle, rfl, .inr ⟨last, h.begins hstage hfirst⟩⟩
  | sleeps due hstage hdue =>
    exact ⟨worker, hworker, hhandle, rfl, .inr ⟨last, h.sleeps hready hstage hdue⟩⟩
  | wakes due hstage hdue => exact ⟨_, rfl, hhandle, rfl, .inr ⟨last, h.wakes hinterval hfirst hstage hdue⟩⟩
  | reports due status hstage hroom hstatus =>
    have hpositive : 0 < handle.deadline.nanos := by omega
    exact ⟨_, rfl, hhandle, rfl, .inr ⟨_, (h.reports hclock hhandle hpositive hstage hfirst hstatus).1⟩⟩
  | reserves due world reserved hstage hpoll =>
    have hclocks := Program.clocks_run (Queue.poll worker.consumer.queue).run m.host.world
    rw [hpoll] at hclocks
    exact ⟨_, rfl, hhandle, rfl, .inr ⟨last, h.reserves hworker hfirst hstage hclocks⟩⟩
  | misses due world hstage hpoll =>
    have hclocks := Program.clocks_run (Queue.poll worker.consumer.queue).run m.host.world
    rw [hpoll] at hclocks
    exact ⟨_, rfl, hhandle, rfl, .inr ⟨last, h.misses hfirst hstage hclocks⟩⟩
  | starts reserved left hstage hpermits =>
    exact ⟨_, rfl, hhandle, rfl, .inr ⟨last, h.starts left hfirst hstage⟩⟩
  | halts world stage hhalts =>
    cases hhalts <;> exact ⟨_, rfl, hhandle, rfl, .inl rfl⟩
  | stays hstays =>
    exact ⟨worker, hworker, hhandle, rfl, (h.stays hready hworker hstays).imp_right fun h => ⟨last, h⟩⟩

/-! ### Other tasks -/

/-- What the loop of the worker waits for is still to come after what takes no time, leaves its timers, and
takes no turn but that of the reporter, which lets it report. -/
theorem Awaits.stays (h : Awaits handle offset m last worker.stage) (hworker : m.host.worker = some worker)
    (hclocks : host.world.wall = m.host.world.wall ∧ host.world.elapsed = m.host.world.elapsed)
    (hready : .worker ∈ m.host.ready → .worker ∈ host.ready)
    (hreporter : ∀ due, worker.stage = .reporting due → .reporter ∈ m.host.ready →
      .worker ∈ host.ready ∨ .reporter ∈ host.ready)
    (htimers : ∀ timer ∈ m.host.timers, timer ∈ host.timers) :
    Awaits handle offset (m.note host) last worker.stage := by
  obtain ⟨-, helapsed⟩ := hclocks
  cases hstage : worker.stage with
  | idle =>
    rw [hstage] at h
    exact hready h
  | waiting due =>
    rw [hstage] at h
    obtain ⟨hturn, houtlasts | hdue⟩ | ⟨htimer, hlater⟩ := h
    · exact .inl ⟨hready hturn, .inl houtlasts⟩
    · exact .inl ⟨hready hturn, .inr (Host.isDue_iff.2 (helapsed ▸ Host.isDue_iff.1 hdue))⟩
    · exact .inr ⟨htimers _ htimer, hlater.1, helapsed ▸ hlater.2⟩
  | reporting due =>
    rw [hstage] at h
    obtain ⟨hticks, hturn, hbound⟩ := h
    refine ⟨?_, ?_, ?_⟩
    · unfold Host.OnTick
      rwa [note_host, helapsed]
    · exact hturn.elim (fun hmem => .inl (hready hmem)) (hreporter due hstage)
    · rwa [note_host, helapsed]
  | polling due =>
    rw [hstage] at h
    obtain ⟨hturn, hlast, hbound⟩ := h
    refine ⟨hready hturn, ?_⟩
    rw [note_host, helapsed]
    exact ⟨hlast, hbound⟩
  | holding reserved =>
    have hheld : m.host.held.isSome = true := by
      rw [Host.held, hworker, Option.bind_some, hstage]
      rfl
    rw [hstage] at h
    unfold Awaits
    rw [since_note_of_held hheld, note_host, helapsed]
    exact h
  | failed | panicked => trivial

/-- A turn of another task than the worker, which has a turn after it only if it had one before or the time is
right. -/
theorem Punctual.serves {rest : List Task} {task : Task} (h : Punctual handle offset m worker last)
    (hready : m.host.ready = task :: rest) (hworker : m.host.worker = some worker) (hother : task ≠ .worker)
    (hleaves : ({ m.host with ready := rest } : Host).Leaves worker host)
    (hreported : Reported handle m host.health last)
    (hreporter : host.health.queued ≠ [] → .reporter ∈ host.ready)
    (hreporting : ∀ due, worker.stage = .reporting due → .reporter ∈ m.host.ready →
      .worker ∈ host.ready ∨ .reporter ∈ host.ready)
    (hwoken : .worker ∈ host.ready → .worker ∈ m.host.ready ∨ m.host.OnTick) :
    ∃ permits, host.worker = some { worker with permits } ∧
      Punctual handle offset (m.note host) { worker with permits } last := by
  obtain ⟨permits, hpermits⟩ := hleaves.worker
  have hrest : ∀ other, other ∈ m.host.ready → other = task ∨ other ∈ host.ready := by
    intro other hmem
    rw [hready] at hmem
    exact (List.mem_cons.1 hmem).imp_right (hleaves.ready other)
  refine ⟨permits, hpermits, .renew hleaves.clocks hreported hreporter (fun number hnumber => ?_)
    (fun hmem => (hwoken hmem).elim h.woken .inl) ?_⟩
  · exact h.jobs number (hready ▸ .tail _ ((hleaves.woken _ hnumber).resolve_left nofun))
  · exact h.stage.stays hworker hleaves.clocks
      (fun hmem => (hrest _ hmem).resolve_left hother.symm) hreporting hleaves.timers

/-- A turn of a job. -/
theorem Punctual.runs {rest : List Task} {number : Nat} (h : Punctual handle offset m worker last)
    (hready : m.host.ready = .job number :: rest) (hworker : m.host.worker = some worker)
    (hhost : ({ m.host with ready := rest } : Host).runJob number = host) :
    ∃ permits, host.worker = some { worker with permits } ∧
      Punctual handle offset (m.note host) { worker with permits } last := by
  obtain ⟨hleaves, hhealth⟩ :
      ({ m.host with ready := rest } : Host).Leaves worker host ∧ host.health = m.host.health :=
    hhost ▸ Host.leaves_runJob number hworker
  have hreporter : .reporter ∈ m.host.ready → .reporter ∈ host.ready := by
    intro hmem
    rw [hready] at hmem
    exact hleaves.ready _ ((List.mem_cons.1 hmem).resolve_left nofun)
  refine h.serves hready hworker nofun hleaves (hhealth ▸ h.reported)
    (hhealth ▸ fun hqueued => hreporter (h.reporter hqueued)) (fun _ _ hmem => .inr (hreporter hmem))
    fun _ => .inr (h.jobs number (hready ▸ .head _))

/-- The turn of the reporter. -/
theorem Punctual.applies {rest : List Task} (h : Punctual handle offset m worker last)
    (hready : m.host.ready = .reporter :: rest) (hworker : m.host.worker = some worker)
    (hhost : ({ m.host with ready := rest } : Host).applyReports = host) :
    ∃ permits, host.worker = some { worker with permits } ∧
      Punctual handle offset (m.note host) { worker with permits } last := by
  obtain ⟨hleaves, hhealth, hwoken⟩ :
      ({ m.host with ready := rest } : Host).Leaves worker host ∧ host.health = m.host.health.applyQueued ∧
        (.worker ∈ host.ready ↔ .worker ∈ rest ∨ ∃ due, worker.stage = .reporting due) :=
    hhost ▸ Host.leaves_applyReports hworker
  refine h.serves hready hworker nofun hleaves (hhealth ▸ h.reported.applyQueued)
    (fun hqueued => absurd (congrArg HealthRegistry.queued hhealth) hqueued)
    (fun due hstage _ => .inl (hwoken.2 (.inr ⟨due, hstage⟩))) fun hmem => ?_
  obtain hold | ⟨due, hstage⟩ := hwoken.1 hmem
  · exact .inl (hready ▸ .tail _ hold)
  · have hreporting : Awaits handle offset m last (.reporting due) := hstage ▸ h.stage
    exact .inr hreporting.1

/-! ### Everything else -/

/-- While no task can go on, the worker waits for its timer or for a permit. -/
theorem Punctual.waits (h : Punctual handle offset m worker last) (hready : m.host.ready = [])
    (hgoes : worker.stage.isOver = false) :
    m.host.health.queued = [] ∧ m.host.health.applied? handle.component = some last ∧
      ((∃ due, worker.stage = .waiting due ∧ ⟨Host.tickOf due, .worker⟩ ∈ m.host.timers ∧
          Outlasts offset last due ∧ m.host.world.elapsed ≤ Host.tickOf due * nanosPerMilli) ∨
        ∃ reserved, worker.stage = .holding reserved ∧ m.since ≤ m.host.world.elapsed ∧
          last = .healthyUntil (offset + m.since + handle.deadline.nanos)) := by
  have hnone : ∀ task, task ∉ m.host.ready := fun task hmem => by simp [hready] at hmem
  have hqueued : m.host.health.queued = [] :=
    Classical.byContradiction fun hqueued => hnone _ (h.reporter hqueued)
  refine ⟨hqueued, (HealthRegistry.latest?_of_queued_eq_nil hqueued).symm.trans h.reported.latest, ?_⟩
  have hstage := h.stage
  cases hcase : worker.stage with
  | idle =>
    rw [hcase] at hstage
    exact absurd hstage (hnone _)
  | waiting due =>
    rw [hcase] at hstage
    obtain ⟨hturn, -⟩ | hlater := hstage
    · exact absurd hturn (hnone _)
    · exact .inl ⟨due, rfl, hlater⟩
  | reporting due =>
    rw [hcase] at hstage
    exact hstage.2.1.elim (absurd · (hnone _)) (absurd · (hnone _))
  | polling due =>
    rw [hcase] at hstage
    exact absurd hstage.1 (hnone _)
  | holding reserved =>
    rw [hcase] at hstage
    exact .inr ⟨reserved, rfl, hstage⟩
  | failed | panicked =>
    rw [hcase] at hgoes
    cases hgoes

/-- A worker waits on for its poll, or has its turn, and its last report is good until then. -/
theorem Outlasts.elapses {due nanos : Nat} (houtlasts : Outlasts offset last due)
    (hclock : m.host.world.wall = offset + m.host.world.elapsed)
    (htimer : ⟨Host.tickOf due, .worker⟩ ∈ m.host.timers)
    (hnext : m.host.world.elapsed + nanos ≤ Host.tickOf due * nanosPerMilli) :
    Awaits handle offset (m.note (m.host.advance nanos)) last (.waiting due) ∧
      Timely handle (m.note (m.host.advance nanos)) last := by
  constructor
  · obtain hfired | hleft := Host.timer_advance nanos htimer
    · exact .inl ⟨hfired, .inl houtlasts⟩
    · exact .inr ⟨hleft, houtlasts, hnext⟩
  · obtain hstarting | ⟨deadline, hlast, hlater⟩ := houtlasts
    · exact .inl hstarting
    · refine .inr ⟨deadline, hlast, .inl ?_⟩
      change m.host.world.wall + (nanos : Nat) < deadline
      omega

/-- A job waits on for its permit, and how long it has waited is noted. -/
theorem holding_elapses {nanos : Nat} {reserved : ReservedJob}
    (hclock : m.host.world.wall = offset + m.host.world.elapsed) (hheld : m.host.held.isSome = true)
    (hsince : m.since ≤ m.host.world.elapsed)
    (hlast : last = .healthyUntil (offset + m.since + handle.deadline.nanos)) :
    Awaits handle offset (m.note (m.host.advance nanos)) last (.holding reserved) ∧
      Timely handle (m.note (m.host.advance nanos)) last := by
  have hwaited : m.host.world.elapsed + nanos - m.since ≤ (m.note (m.host.advance nanos)).longest := by
    have hnoted := @waited_le_longest m (m.host.advance nanos) hheld
    rwa [since_note_of_held hheld] at hnoted
  refine ⟨?_, .inr ⟨_, hlast, ?_⟩⟩
  · unfold Awaits
    rw [since_note_of_held hheld]
    exact ⟨Nat.le_add_right_of_le hsince, hlast⟩
  · change m.host.world.wall + (nanos : Nat) < _ ∨ _
    omega

/-- Time passes up to the next timer. -/
theorem Punctual.elapses {nanos : Nat} (h : Punctual handle offset m worker last)
    (hclock : m.host.world.wall = offset + m.host.world.elapsed) (hworker : m.host.worker = some worker)
    (hgoes : worker.stage.isOver = false) (hready : m.host.ready = [])
    (htimers : ∀ timer ∈ m.host.timers, m.host.world.elapsed + nanos ≤ timer.tick * nanosPerMilli) :
    Punctual handle offset (m.note (m.host.advance nanos)) worker last := by
  have hticks : ∀ task, task ∈ (m.host.advance nanos).ready → (m.host.advance nanos).OnTick := by
    intro task hmem
    obtain hold | ⟨timer, htimer, -, hdue⟩ := Host.ready_of_advance hmem
    · simp [hready] at hold
    · have hfires : m.host.world.elapsed + nanos = timer.tick * nanosPerMilli :=
        Nat.le_antisymm (htimers timer htimer) hdue
      exact ⟨timer.tick, hfires.trans (Nat.mul_comm ..)⟩
  obtain ⟨hqueued, happlied, hwaits⟩ := h.waits hready hgoes
  obtain ⟨hstage, htimely⟩ : Awaits handle offset (m.note (m.host.advance nanos)) last worker.stage ∧
      Timely handle (m.note (m.host.advance nanos)) last := by
    obtain ⟨due, hstage, htimer, houtlasts, -⟩ | ⟨reserved, hstage, hsince, hlast⟩ := hwaits
    · have hnext := htimers _ htimer
      rw [hstage]
      exact houtlasts.elapses hclock htimer hnext
    · have hheld : m.host.held.isSome = true := by
        rw [Host.held, hworker, Option.bind_some, hstage]
        rfl
      rw [hstage]
      exact holding_elapses hclock hheld hsince hlast
  refine ⟨⟨h.reported.latest, fun status hstatus => ?_, fun report hreport => ?_⟩, ?_, fun number => hticks _,
    fun hmem => .inl (hticks _ hmem), hstage⟩
  · exact Option.some.inj (happlied.symm.trans hstatus) ▸ htimely
  · exact absurd (hqueued ▸ hreport) List.not_mem_nil
  · exact fun hsome => absurd hqueued hsome

/-- Another component reports. -/
theorem Punctual.hears {report : HealthReport} (h : Punctual handle offset m worker last)
    (hworker : m.host.worker = some worker) (hname : report.component ≠ handle.component) :
    Punctual handle offset (m.note (m.host.report report)) worker last := by
  have hclocks : (m.host.report report).world = m.host.world := Host.world_wake _ _
  have hhealth : (m.host.report report).health = m.host.health.enqueue report := Host.health_wake _ _
  have hwoken : ∀ task, task ∈ (m.host.report report).ready ↔ task = .reporter ∨ task ∈ m.host.ready :=
    fun _ => Host.mem_wake
  have hold : ∀ task, task ≠ .reporter → task ∈ (m.host.report report).ready → task ∈ m.host.ready :=
    fun task hother hmem => ((hwoken task).1 hmem).resolve_left hother
  refine .renew ⟨congrArg World.wall hclocks, congrArg World.elapsed hclocks⟩ ?_
    (fun _ => (hwoken _).2 (.inl rfl)) (fun number hnumber => h.jobs number (hold _ nofun hnumber))
    (fun hmem => h.woken (hold _ nofun hmem)) ?_
  · rw [hhealth]
    have hreported := h.reported.enqueue fun hsame : report.component = handle.component => absurd hsame hname
    rwa [if_neg hname.symm] at hreported
  · exact h.stage.stays hworker ⟨congrArg World.wall hclocks, congrArg World.elapsed hclocks⟩
      (fun hmem => (hwoken _).2 (.inr hmem)) (fun _ _ hmem => .inr ((hwoken _).2 (.inr hmem)))
      fun timer htimer => (Host.timers_wake _ _).symm ▸ htimer

/-- The host is given other stores and rules. -/
theorem Punctual.shares {world : World} (h : Punctual handle offset m worker last)
    (hworker : m.host.worker = some worker)
    (hclocks : world.wall = m.host.world.wall ∧ world.elapsed = m.host.world.elapsed) :
    Punctual handle offset (m.note { m.host with world }) worker last :=
  h.moves rfl hclocks id h.jobs h.woken
    (h.stage.stays hworker hclocks id (fun _ _ hmem => .inr hmem) fun _ htimer => htimer)

/-! ### Runs -/

theorem sound_start : Sound handle (world.wall - world.elapsed) pollInterval
    (start world consumer pollInterval handle) := by
  have hready : (start world consumer pollInterval handle).host.ready = [.reporter, .worker] := rfl
  refine ⟨?_, ⟨consumer, pollInterval, handle, .start consumer.queue, consumer.queue.maxConcurrency⟩, rfl, rfl,
    rfl, ?_⟩
  · change world.wall = world.wall - world.elapsed + world.elapsed
    omega
  obtain hstage | hstage := WorkerStage.start_eq consumer.queue <;> rw [hstage]
  · refine .inr ⟨.starting, ⟨?_, ?_, ?_⟩, ?_, ?_, fun _ => .inr (.inr ⟨rfl, rfl⟩), ?_⟩
    · change (HealthRegistry.empty.enqueue ⟨handle.component, .starting⟩).latest? handle.component = _
      rw [HealthRegistry.latest?_enqueue, if_pos rfl]
    · exact nofun
    · intro report hreport _
      obtain rfl := List.mem_singleton.1 hreport
      exact .inl rfl
    · exact fun _ => hready ▸ .head _
    · intro number hnumber
      simp [hready] at hnumber
    · change Task.worker ∈ (start world consumer pollInterval handle).host.ready
      rw [hready]
      exact .tail _ (.head _)
  · exact .inl rfl

/-- A loop that is over has nothing to do in its turn. -/
theorem worker_of_isOver {rest : List Task} (hover : worker.stage.isOver = true)
    (hworks : m.host.Works worker rest host) : host = { m.host with ready := rest } := by
  cases hworks with
  | stays => rfl
  | halts world stage hhalts =>
    cases hhalts with
    | noPeriod hstage | dateless _ _ hstage | failed _ _ _ hstage | broken _ _ _ hstage =>
      rw [hstage] at hover
      cases hover
  | begins hstage | sleeps _ hstage | wakes _ hstage | reports _ _ hstage | reserves _ _ _ hstage
  | misses _ _ hstage | starts _ _ hstage =>
    rw [hstage] at hover
    cases hover

/-- What goes on beside the loop of the worker. -/
theorem Sound.stays (hclock : host.world.wall = offset + host.world.elapsed)
    (hhandle : worker.health = handle)
    (hpermits : ∃ permits, host.worker = some { worker with permits })
    (hstate : worker.stage.isOver = true ∨ ∃ last, Punctual handle offset m worker last)
    (hpunctual : worker.stage.isOver = false → ∀ last, Punctual handle offset m worker last →
      ∃ permits, host.worker = some { worker with permits } ∧
        Punctual handle offset (m.note host) { worker with permits } last) :
    Sound handle offset worker.pollInterval (m.note host) := by
  cases hover : worker.stage.isOver with
  | true =>
    obtain ⟨permits, hworker⟩ := hpermits
    exact ⟨hclock, _, hworker, hhandle, rfl, .inl hover⟩
  | false =>
    rw [hover] at hstate
    obtain ⟨last, h⟩ := hstate.resolve_left nofun
    obtain ⟨permits, hworker, h'⟩ := hpunctual hover last h
    exact ⟨hclock, _, hworker, hhandle, rfl, .inr ⟨last, h'⟩⟩

/-- Whatever goes on, the worker stays punctual until its loop is over. -/
theorem Sound.step (hinterval : (Host.tickOf pollInterval.nanos * nanosPerMilli : Nat) < handle.deadline.nanos)
    (h : Sound handle offset pollInterval m) (hstep : Step handle.component m m') :
    Sound handle offset pollInterval m' := by
  obtain ⟨hclock, worker, hworker, hhandle, rfl, hstate⟩ := h
  obtain ⟨hproceeds⟩ := hstep
  cases hproceeds with
  | turns hturn =>
    cases Host.turned_of_step hturn with
    | @applies rest hready =>
      obtain ⟨hleaves, -⟩ :
          ({ m.host with ready := rest } : Host).Leaves worker
            ({ m.host with ready := rest } : Host).applyReports ∧ _ :=
        Host.leaves_applyReports hworker
      refine .stays ?_ hhandle hleaves.worker hstate fun _ last h => h.applies hready hworker rfl
      rw [hleaves.clocks.1, hleaves.clocks.2]
      exact hclock
    | @runs rest number hready =>
      obtain ⟨hleaves, -⟩ :
          ({ m.host with ready := rest } : Host).Leaves worker
            (({ m.host with ready := rest } : Host).runJob number) ∧ _ :=
        Host.leaves_runJob number hworker
      refine .stays ?_ hhandle hleaves.worker hstate fun _ last h => h.runs hready hworker rfl
      rw [hleaves.clocks.1, hleaves.clocks.2]
      exact hclock
    | idles hready hnone => cases hworker.symm.trans hnone
    | works hready hworker' hworks =>
      obtain rfl := Option.some.inj (hworker.symm.trans hworker')
      obtain hover | ⟨last, h⟩ := hstate
      · obtain rfl := worker_of_isOver hover hworks
        exact ⟨hclock, worker, hworker, hhandle, rfl, .inl hover⟩
      · obtain ⟨hwall, helapsed⟩ := hworks.clocks
        refine ⟨?_, h.works hclock hworker hhandle hinterval hready hworks⟩
        rw [note_host, hwall, helapsed]
        exact hclock
  | elapses nanos hready htimers =>
    refine .stays ?_ hhandle ⟨_, hworker⟩ hstate fun hgoes last h =>
      ⟨_, hworker, h.elapses hclock hworker hgoes hready htimers⟩
    change m.host.world.wall + nanos = offset + (m.host.world.elapsed + nanos : Nat)
    omega
  | hears report hname hroom =>
    have hafter : (m.host.report report).worker = some worker := (Host.worker_wake _ _).trans hworker
    refine .stays ?_ hhandle ⟨_, hafter⟩ hstate fun _ last h => ⟨_, hafter, h.hears hworker hname⟩
    rw [Host.report, Host.world_wake]
    exact hclock
  | shares jobs deadLetters rules =>
    exact .stays hclock hhandle ⟨_, hworker⟩ hstate fun _ last h => ⟨_, hworker, h.shares hworker ⟨rfl, rfl⟩⟩

theorem Sound.of_run (hinterval : (Host.tickOf pollInterval.nanos * nanosPerMilli : Nat) < handle.deadline.nanos)
    (h : Run handle.component (start world consumer pollInterval handle) m) :
    Sound handle (world.wall - world.elapsed) pollInterval m := by
  induction h with
  | refl => exact sound_start
  | tail _ hstep ih => exact ih.step hinterval hstep

theorem shownAt_eq_stalled {now deadline : Int} :
    (HealthStatus.healthyUntil deadline).shownAt now = .stalled ↔ deadline ≤ now := by
  rw [HealthStatus.shownAt, ← Int.not_lt]
  split <;> simp [*]

/-- Let the polls of a worker follow one another within the deadline of its health, by the milliseconds that
timers go by. At any moment, it then shows as stalled only if some job has waited for its permit for as long
as the deadline; and once no task can go on, it shows so exactly if the job that it holds has waited that
long. -/
theorem stalls_by_permits (hinterval : (Host.tickOf pollInterval.nanos * nanosPerMilli : Nat) < handle.deadline.nanos)
    (hrun : Run handle.component (start world consumer pollInterval handle) m)
    (hworker : m.host.worker = some worker) (hgoes : worker.stage.isOver = false) :
    (m.host.health.shown? handle.component m.host.world.wall = some .stalled → handle.deadline.nanos ≤ m.longest) ∧
    (m.host.ready = [] →
      (m.host.health.shown? handle.component m.host.world.wall = some .stalled ↔
        m.host.held.isSome = true ∧ m.since + handle.deadline.nanos ≤ m.host.world.elapsed)) := by
  obtain ⟨hclock, worker', hworker', -, -, hstate⟩ := Sound.of_run hinterval hrun
  obtain rfl := Option.some.inj (hworker.symm.trans hworker')
  rw [hgoes] at hstate
  obtain ⟨last, h⟩ := hstate.resolve_left nofun
  rw [HealthRegistry.shown?_eq]
  refine ⟨fun hstalled => ?_, fun hready => ?_⟩
  · obtain ⟨status, hstatus, hshown⟩ := Option.map_eq_some_iff.1 hstalled
    obtain rfl | ⟨deadline, rfl, hlater | hwaited⟩ := h.reported.applied status hstatus
    · cases hshown
    · exact absurd (shownAt_eq_stalled.1 hshown) (Int.not_le.2 hlater)
    · exact hwaited
  · obtain ⟨-, happlied, hwaits⟩ := h.waits hready hgoes
    have hheld : m.host.held = worker.stage.held := by rw [Host.held, hworker, Option.bind_some]
    rw [happlied, Option.map_some, Option.some.injEq, hheld]
    obtain ⟨due, hstage, -, houtlasts, hnext⟩ | ⟨reserved, hstage, -, rfl⟩ := hwaits <;> rw [hstage]
    · have hshows : last.shownAt m.host.world.wall ≠ .stalled := by
        obtain rfl | ⟨deadline, rfl, hlater⟩ := houtlasts
        · exact nofun
        · rw [Ne, shownAt_eq_stalled]
          omega
      exact ⟨fun hstalled => absurd hstalled hshows, fun hwaits => by cases hwaits.1⟩
    · rw [shownAt_eq_stalled, hclock]
      refine ⟨fun hwaited => ⟨rfl, by omega⟩, fun hwaited => by omega⟩

/-! ### A fixed run -/

/-- Takes turns until no task can go on, at most a number of them. -/
def takeTurns : Nat → Attended → Attended
  | 0, m => m
  | turns + 1, m =>
    match m.host.step with
    | none => m
    | some host => takeTurns turns (m.note host)

theorem run_takeTurns (name : String) (turns : Nat) (m : Attended) : Run name m (takeTurns turns m) := by
  induction turns generalizing m with
  | zero => exact .refl
  | succ turns ih =>
    unfold takeTurns
    split
    next => exact .refl
    next host hstep => exact .head (.mk (.turns hstep)) (ih _)

/-- Healthy for half a minute after a report. -/
def sampleHandle : HealthHandle :=
  ⟨"worker", .ofMillis 30000⟩

/-- A worker with one permit, for two jobs that are processed for an hour. -/
def sampleStart : Attended :=
  start { Watched.busyWorld with rules := [⟨"q", 3600000000000, none⟩] }
    ⟨.sample, .ofSeconds 60, Validation.defaultMaxQueryLength⟩ (.ofMillis 10) sampleHandle

/-- The second job has waited for a time. -/
def sampleWaiting (nanos : Nat) : Attended :=
  let m := takeTurns 20 sampleStart
  m.note (m.host.advance nanos)

theorem run_sampleWaiting {nanos : Nat} (h : nanos ≤ 3600000000000) :
    Run "worker" sampleStart (sampleWaiting nanos) := by
  have hstate : (takeTurns 20 sampleStart).host.ready = [] ∧ (takeTurns 20 sampleStart).host.world.elapsed = 0 ∧
      (takeTurns 20 sampleStart).host.timers = [⟨3600000, .job 0⟩] := by decide +kernel
  obtain ⟨hready, helapsed, htimers⟩ := hstate
  refine .tail (run_takeTurns "worker" 20 sampleStart) (.mk (.elapses nanos hready fun timer htimer => ?_))
  rw [htimers] at htimer
  obtain rfl := List.mem_singleton.1 htimer
  rw [helapsed]
  change 0 + nanos ≤ 3600000 * nanosPerMilli
  rw [nanosPerMilli]
  omega

/-- A second before the deadline, the worker does not show as stalled. -/
theorem sample_not_stalled : ∃ worker : Worker,
    Run "worker" sampleStart (sampleWaiting 29000000000) ∧
    (sampleWaiting 29000000000).host.worker = some worker ∧ worker.stage.isOver = false ∧
    (sampleWaiting 29000000000).host.held.isSome = true ∧
    (sampleWaiting 29000000000).host.health.shown? "worker" (sampleWaiting 29000000000).host.world.wall ≠
      some .stalled := by
  have hrun : Run "worker" sampleStart (sampleWaiting 29000000000) := run_sampleWaiting (by decide)
  have hgoes : ((sampleWaiting 29000000000).host.worker.any fun worker => !worker.stage.isOver) = true := by
    decide +kernel
  obtain ⟨worker, hworker, hgoes⟩ := (Option.any_eq_true _ _).1 hgoes
  rw [Bool.not_eq_true'] at hgoes
  have hstate : (sampleWaiting 29000000000).host.ready = [] ∧ (sampleWaiting 29000000000).host.held.isSome = true ∧
      (sampleWaiting 29000000000).since = 0 ∧ (sampleWaiting 29000000000).host.world.elapsed = 29000000000 := by
    decide +kernel
  obtain ⟨hready, hheld, hsince, helapsed⟩ := hstate
  have hinterval : (Host.tickOf (Duration.ofMillis 10).nanos * nanosPerMilli : Nat) <
      sampleHandle.deadline.nanos := by decide
  refine ⟨worker, hrun, hworker, hgoes, hheld, fun hstalled => ?_⟩
  obtain ⟨-, hwaited⟩ := ((stalls_by_permits hinterval hrun hworker hgoes).2 hready).1 hstalled
  rw [hsince, helapsed] at hwaited
  exact absurd hwaited (by decide)

/-- A second after the deadline, it shows as stalled, although it only waits for its permit. -/
theorem sample_stalled : ∃ worker : Worker,
    (Duration.ofMillis 10).nanos < sampleHandle.deadline.nanos ∧
    Run "worker" sampleStart (sampleWaiting 31000000000) ∧
    (sampleWaiting 31000000000).host.worker = some worker ∧ worker.stage.isOver = false ∧
    (sampleWaiting 31000000000).host.health.shown? "worker" (sampleWaiting 31000000000).host.world.wall =
      some .stalled := by
  have hrun : Run "worker" sampleStart (sampleWaiting 31000000000) := run_sampleWaiting (by decide)
  have hstate : ((sampleWaiting 31000000000).host.worker.any fun worker => !worker.stage.isOver) = true ∧
      (sampleWaiting 31000000000).host.health.shown? "worker" (sampleWaiting 31000000000).host.world.wall =
        some .stalled := by decide +kernel
  obtain ⟨worker, hworker, hgoes⟩ := (Option.any_eq_true _ _).1 hstate.1
  rw [Bool.not_eq_true'] at hgoes
  exact ⟨worker, by decide, hrun, hworker, hgoes, hstate.2⟩

end Attended

end JobQueue
