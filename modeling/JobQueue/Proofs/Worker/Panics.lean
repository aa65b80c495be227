import JobQueue.Proofs.Dedup.Window
import JobQueue.Proofs.Settings
import JobQueue.Proofs.Worker.Sifting

/-! Which settings a worker can be run with. All numbers that can be read are accepted, but a worker that is to
have too many permits panics before anything else, and one that is to poll without any time between its polls
panics in its first turn. With all other settings a worker only panics at a reading of the clock that is no
date, whatever its queue holds and whatever the stores answer. -/

namespace JobQueue

open Time (Duration)

/-! ### Programs -/

/-- A reading of the clock that no record can have. -/
def Deed.IsDateless (d : Deed) : Prop :=
  ∃ reading p, d = ⟨.clock, reading⟩ ∧ Clock.recordTime reading = .error p

/-- No command but the one that sets values can panic. -/
theorem World.isSet_of_perform_error {world world' : World} {e : Effect} {p : Panic}
    (h : world.perform e = (world', .error p)) : e.isSet = true := by
  cases e with
  | command site c =>
    have hclient : ((world.client site).run world.elapsed c).2 = .error p := congrArg Prod.snd h
    obtain ⟨hstore, -⟩ := Client.run_error (Prod.ext rfl hclient)
    cases c with
    | set => rfl
    | _ => cases hstore
  | clock | process | count => cases congrArg Prod.snd h

/-- What was read, if the clock was. -/
def Deed.reading? : Deed → Option Int
  | ⟨.clock, reading⟩ => some reading
  | _ => none

namespace Program

variable {α β : Type} {Q : Deed → Prop}

/-- A program does not panic unless it has had a deed of a certain kind. -/
def PanicsBy (Q : Deed → Prop) : Program α → Prop
  | done _ => True
  | panic _ => False
  | step e next => ∀ a, Q ⟨e, a⟩ ∨ (next a).PanicsBy Q

theorem PanicsBy.bind {f : α → Program β} : {p : Program α} → p.PanicsBy Q → (∀ a, (f a).PanicsBy Q) →
    (p.bind f).PanicsBy Q
  | .done a, _, hf => hf a
  | .step _ _, hp, hf => fun a => (hp a).imp_right fun hnext => hnext.bind hf

/-- A program that has come to a panic has had such a deed on its way. -/
theorem Leads.panicsBy {p q : Program α} {deeds : List Deed} (h : p.Leads deeds q) (hp : p.PanicsBy Q) :
    (∃ d ∈ deeds, Q d) ∨ q.PanicsBy Q := by
  induction h with
  | refl => exact .inr hp
  | step a _ ih =>
    rcases ih with ⟨d, hd, hQ⟩ | hnext
    · exact .inl ⟨d, .tail _ hd, hQ⟩
    · exact (hnext a).imp_left fun hQ => ⟨_, .head _, hQ⟩

/-- A program that sets no value panics by itself if it does, and all its readings of the clock are one. -/
theorem leads_of_run_error {p : Program α} {world world' : World} {x : Panic}
    (hsets : p.Each fun e => e.isSet = false) (hrun : p.run world = (world', .error x)) :
    ∃ deeds, p.Leads deeds (.panic x) ∧ ∀ reading, ⟨.clock, reading⟩ ∈ deeds → reading = world.wall := by
  induction p generalizing world with
  | done a => cases hrun
  | panic p =>
    cases hrun
    exact ⟨[], .refl, nofun⟩
  | step e next ih =>
    have hclocks := world.clocks_perform e
    rw [run] at hrun
    split at hrun
    next after a hperform =>
      rw [hperform] at hclocks
      obtain ⟨deeds, hleads, hreadings⟩ := ih a (hsets.2 a) hrun
      have hfirst : (step e next).Leads [⟨e, a⟩] (next a) := .step a .refl
      refine ⟨deeds ++ [⟨e, a⟩], hfirst.trans hleads, ?_⟩
      intro reading hreading
      rcases List.mem_append.1 hreading with hlater | hnow
      · exact (hreadings reading hlater).trans hclocks.1
      · cases List.mem_singleton.1 hnow
        cases hperform
        rfl
    next after p hperform =>
      have hset := World.isSet_of_perform_error hperform
      rw [hsets.1] at hset
      cases hset

end Program

/-! ### Polls -/

namespace QueueAction

variable {α β : Type} {Q : Deed → Prop}

theorem panicsBy_bind {x : QueueAction α} {f : α → QueueAction β} (hx : x.run.PanicsBy Q)
    (hf : ∀ a, (f a).run.PanicsBy Q) : (x >>= f).run.PanicsBy Q := by
  rw [run_bind]
  apply hx.bind
  intro r
  cases r with
  | ok a => exact hf a
  | error error => trivial

theorem panicsBy_send (c : Command) : (send c).run.PanicsBy Q :=
  fun _ => .inr trivial

theorem panicsBy_clockMillis : clockMillis.run.PanicsBy Deed.IsDateless := by
  intro reading
  cases hread : Clock.recordTime reading with
  | ok nanos =>
    right
    dsimp only
    rw [hread]
    trivial
  | error p => exact .inl ⟨reading, p, rfl, hread⟩

end QueueAction

namespace Queue

open QueueAction

variable (config : QueueConfig)

theorem promoteAll_panicsBy {Q : Deed → Prop} (due : List String) (promoted : Nat) :
    (promoteAll config due promoted).run.PanicsBy Q := by
  induction due generalizing promoted with
  | nil => trivial
  | cons envelope due ih =>
    apply panicsBy_bind (panicsBy_send _)
    intro removed
    cases removed with
    | true => exact panicsBy_bind (panicsBy_send _) fun _ => ih (promoted + 1)
    | false => exact ih promoted

theorem dequeue_panicsBy {Q : Deed → Prop} : (dequeue config).run.PanicsBy Q := by
  apply panicsBy_bind (panicsBy_send _)
  intro r
  cases r with
  | none => trivial
  | some envelope =>
    dsimp only
    cases Job.codec.ofText envelope with
    | ok job => trivial
    | error fault =>
      have hreleases : (release config envelope).run.PanicsBy Q :=
        panicsBy_bind (panicsBy_send _) fun _ => trivial
      exact panicsBy_bind (panicsBy_send _) fun _ => panicsBy_bind hreleases fun _ => trivial

/-- However the store answers, a poll only panics at a reading of the clock. -/
theorem poll_panicsBy : (poll config).run.PanicsBy Deed.IsDateless := by
  have hpromotes : (promoteDue config).run.PanicsBy Deed.IsDateless :=
    panicsBy_bind panicsBy_clockMillis fun now =>
      panicsBy_bind (panicsBy_send _) fun due => promoteAll_panicsBy config due 0
  apply panicsBy_bind hpromotes
  intro _
  rw [run_tryCatch]
  apply (dequeue_panicsBy config).bind
  rintro ((_ | _) | _) <;> trivial

theorem poll_sets_nothing : (poll config).run.Each fun e => e.isSet = false := by
  have hquiet := (spares_quiet config).mono fun _ hspares => hspares.1
  have hpromotes : (promoteDue config).run.Each fun e => e.isSet = false :=
    promoteDue_each config rfl (fun _ => rfl) (fun _ => rfl) fun _ => rfl
  apply each_bind hpromotes
  intro _
  rw [run_tryCatch]
  apply hquiet.dequeue_each.bind
  rintro ((_ | _) | _) <;> trivial

variable {config}

/-- A poll that panics has read the clock, and there was no date. -/
theorem exists_of_poll_panics {deeds : List Deed} {p : Panic} (h : (poll config).run.Leads deeds (.panic p)) :
    ∃ reading p', ⟨.clock, reading⟩ ∈ deeds ∧ Clock.recordTime reading = .error p' := by
  obtain ⟨_, hd, reading, p', rfl, hread⟩ := (h.panicsBy (poll_panicsBy config)).resolve_right id
  exact ⟨reading, p', hd, hread⟩

/-- A poll of a store panics only if the clock shows no date. -/
theorem recordTime_of_poll_error {world world' : World} {p : Panic}
    (h : (poll config).run.run world = (world', .error p)) :
    ∃ p', Clock.recordTime world.wall = .error p' := by
  obtain ⟨deeds, hleads, hreadings⟩ := Program.leads_of_run_error (poll_sets_nothing config) h
  obtain ⟨reading, p', hmem, hread⟩ := exists_of_poll_panics hleads
  exact ⟨p', hreadings reading hmem ▸ hread⟩

end Queue

/-! ### Settings -/

namespace Settings

/-- The consumer of a queue with certain settings. -/
def consumer (s : Settings) : Consumer :=
  ⟨s.queueConfig, s.dedupTtl, s.maxQueryLength⟩

namespace Environment

variable (env : Environment)

/-- There are to be more permits than can be counted. -/
def Crowded : Prop :=
  ∃ n, readWord Word.max64 ((env.lookup "CONCURRENCY").getD "10") = some n ∧ WorkerStage.permitLimit < n

/-- No time is to pass from one poll to the next. -/
def Restless : Prop :=
  readWord Word.max64 ((env.lookup "POLL_INTERVAL").getD "100") = some 0

variable {env} {s : Settings}

theorem crowded_iff (h : ofEnvironment env = .ok s) : env.Crowded ↔ WorkerStage.permitLimit < s.concurrency := by
  rw [Crowded, read_of_setting (readFrom_of_ofEnvironment h).concurrency]
  simp

theorem restless_iff (h : ofEnvironment env = .ok s) : env.Restless ↔ s.pollInterval.nanos = 0 := by
  obtain ⟨ms, hread, hinterval⟩ := Option.map_eq_some_iff.1 (read_of_setting (readFrom_of_ofEnvironment h).pollInterval)
  have hword : readWord Word.max64 ((env.lookup "POLL_INTERVAL").getD "100") = some ms := hread
  rw [Restless, hword, ← hinterval, Duration.nanos_ofMillis (readWord_le hword), Time.nanosPerMilli]
  simp

/-- A worker with too many permits panics before anything else. -/
theorem start_of_crowded (h : ofEnvironment env = .ok s) (hcrowded : env.Crowded) :
    WorkerStage.start s.queueConfig = .panicked .tooManyPermits := by
  have hmore : WorkerStage.permitLimit < s.queueConfig.maxConcurrency :=
    ((crowded_iff h).1 hcrowded).trans_le (Nat.le_max_left ..)
  exact if_neg (Nat.not_le.2 hmore)

theorem start_of_not_crowded (h : ofEnvironment env = .ok s) (hcrowded : ¬env.Crowded) :
    WorkerStage.start s.queueConfig = .idle := by
  rw [crowded_iff h, Nat.not_lt] at hcrowded
  exact if_pos (Nat.max_le.2 ⟨hcrowded, by decide⟩)

end Environment

end Settings

/-! ### Hosts with any surroundings -/

/-- Where the loop of a worker stands once its poll is over. -/
inductive PollEnds (due : Nat) : Program (Except QueueError (Option ReservedJob)) → WorkerStage → Prop where
  | reserved (reserved : ReservedJob) : PollEnds due (.done (.ok (some reserved))) (.holding reserved)
  | none : PollEnds due (.done (.ok none)) (.waiting due)
  | failed (error : QueueError) : PollEnds due (.done (.error error)) (.failed error)
  | panicked (p : Panic) : PollEnds due (.panic p) (.panicked p)

/-- A host with what its worker may have read of the clock so far. -/
structure Exposed where
  host : Host
  readings : List Int

namespace Exposed

/-- How a worker is set to work. -/
inductive Entry where
  /-- It waits for one job after the other, and starts them. -/
  | runs
  /-- It only waits for jobs. -/
  | waits
  deriving DecidableEq

/-- A worker with certain settings that was just set to work. -/
def start (entry : Entry) (s : Settings) (world : World) (handle : HealthHandle) : Exposed where
  host := match entry with
    | .runs => (Host.new world).startWorker s.consumer s.pollInterval handle
    | .waits => (Caller.start world s.consumer s.pollInterval handle).host
  readings := []

inductive Step : Exposed → Exposed → Prop where
  | turns {m : Exposed} {host : Host} (h : m.host.step = some host) : Step m ⟨host, m.host.world.wall :: m.readings⟩
  /-- The stores give any answers to a poll, and the clock any readings. -/
  | polls {m : Exposed} (worker : Worker) (due : Nat) (deeds : List Deed)
      (q : Program (Except QueueError (Option ReservedJob))) (stage : WorkerStage)
      (hworker : m.host.worker = some worker) (hstage : worker.stage = .polling due)
      (hpoll : (Queue.poll worker.consumer.queue).run.Leads deeds q) (hends : PollEnds due q stage) :
      Step m ⟨m.host.moveTo worker stage, deeds.filterMap Deed.reading? ++ m.readings⟩
  /-- Whoever waits for a job takes it, and the next wait begins. -/
  | takes {m : Exposed} (worker : Worker) (reserved : ReservedJob) (hworker : m.host.worker = some worker)
      (hstage : worker.stage = .holding reserved) : Step m ⟨m.host.moveTo worker .idle, m.readings⟩
  /-- Anything may happen to all but the worker, and permits may come back. -/
  | shifts {m : Exposed} (host : Host) (permits : Nat)
      (hworker : host.worker = m.host.worker.map fun worker => { worker with permits }) :
      Step m ⟨host, m.readings⟩

/-- Any number of steps. -/
abbrev Run : Exposed → Exposed → Prop :=
  Relation.ReflTransGen Step

/-- How the loop of a worker can get from its stage to another one. -/
inductive Moves (worker : Worker) (readings : List Int) : WorkerStage → Prop where
  | stays : Moves worker readings worker.stage
  | goes (stage : WorkerStage) (hover : ∀ p, worker.stage ≠ .panicked p)
      (hperiod : worker.stage = .idle → worker.pollInterval.nanos ≠ 0) (hgoes : ∀ p, stage ≠ .panicked p) :
      Moves worker readings stage
  | noPeriod (hstage : worker.stage = .idle) (hperiod : worker.pollInterval.nanos = 0) :
      Moves worker readings (.panicked .zeroPeriod)
  | dateless (p : Panic) (reading : Int) (hover : ∀ p, worker.stage ≠ .panicked p) (hbusy : worker.stage ≠ .idle)
      (hreading : reading ∈ readings) (hdateless : Caller.Dateless worker.health reading) :
      Moves worker readings (.panicked p)

variable {m m' : Exposed} {worker : Worker}

/-- What a turn of the worker makes of its stage. -/
theorem moves_of_works {host host' : Host} {rest : List Task} (readings : List Int)
    (hworker : host.worker = some worker) (h : host.Works worker rest host') :
    ∃ permits stage, host'.worker = some { worker with permits, stage } ∧
      Moves worker (host.world.wall :: readings) stage := by
  cases h with
  | begins hstage hperiod => exact ⟨worker.permits, _, rfl, .goes _ (by simp [hstage]) (fun _ => hperiod) nofun⟩
  | sleeps | stays => exact ⟨worker.permits, worker.stage, hworker, .stays⟩
  | wakes _ hstage | reports _ _ hstage | reserves _ _ _ hstage | misses _ _ hstage | starts _ _ hstage =>
    exact ⟨_, _, rfl, .goes _ (by simp [hstage]) (by simp [hstage]) nofun⟩
  | halts world stage hhalts =>
    refine ⟨worker.permits, stage, rfl, ?_⟩
    cases hhalts with
    | noPeriod hstage hperiod => exact .noPeriod hstage hperiod
    | dateless due p hstage hdate =>
      exact .dateless p _ (by simp [hstage]) (by simp [hstage]) (.head _) ⟨p, .inr hdate⟩
    | failed due world error hstage => exact .goes _ (by simp [hstage]) (by simp [hstage]) nofun
    | broken due world p hstage hpoll =>
      obtain ⟨p', hread⟩ := Queue.recordTime_of_poll_error hpoll
      exact .dateless p _ (by simp [hstage]) (by simp [hstage]) (.head _) ⟨p', .inl hread⟩

/-- What any step makes of the stage of the worker. No reading is forgotten. -/
theorem moves_of_step (h : Step m m') (hworker : m.host.worker = some worker) :
    m.readings ⊆ m'.readings ∧
      ∃ permits stage, m'.host.worker = some { worker with permits, stage } ∧ Moves worker m'.readings stage := by
  cases h with
  | turns hturn =>
    refine ⟨List.subset_cons_self _ _, ?_⟩
    cases Host.turned_of_step hturn with
    | applies hready =>
      exact ⟨worker.permits, worker.stage, (Host.worker_applyReports _).trans hworker, .stays⟩
    | @runs rest number hready =>
      have hself : ({ m.host with ready := rest } : Host).worker = some worker := hworker
      obtain ⟨⟨⟨permits, hafter⟩, -⟩, -⟩ := Host.leaves_runJob number hself
      exact ⟨permits, worker.stage, hafter, .stays⟩
    | idles hready hnone => cases hworker.symm.trans hnone
    | works hready hsome hworks =>
      obtain rfl := Option.some.inj (hworker.symm.trans hsome)
      exact moves_of_works m.readings hworker hworks
  | polls worker' due deeds q stage hsome hstage hpoll hends =>
    obtain rfl := Option.some.inj (hworker.symm.trans hsome)
    refine ⟨List.subset_append_right _ _, worker.permits, stage, rfl, ?_⟩
    cases hends with
    | reserved | none | failed => exact .goes _ (by simp [hstage]) (by simp [hstage]) nofun
    | panicked p =>
      obtain ⟨reading, p', hmem, hread⟩ := Queue.exists_of_poll_panics hpoll
      have hreading : reading ∈ deeds.filterMap Deed.reading? := List.mem_filterMap.2 ⟨_, hmem, rfl⟩
      exact .dateless p reading (by simp [hstage]) (by simp [hstage]) (List.mem_append_left _ hreading)
        ⟨p', .inl hread⟩
  | takes worker' reserved hsome hstage =>
    obtain rfl := Option.some.inj (hworker.symm.trans hsome)
    exact ⟨List.Subset.refl _, worker.permits, .idle, rfl, .goes _ (by simp [hstage]) (by simp [hstage]) nofun⟩
  | shifts host permits hafter =>
    rw [hworker] at hafter
    exact ⟨List.Subset.refl _, permits, worker.stage, hafter, .stays⟩

/-! ### Runs -/

/-- What stays true of a worker from its first stage on. -/
structure Sound (first : WorkerStage) (interval : Duration) (handle : HealthHandle) (m : Exposed)
    (worker : Worker) : Prop where
  present : m.host.worker = some worker
  period : worker.pollInterval = interval
  health : worker.health = handle
  panicked : ∀ p, worker.stage = .panicked p → first = .panicked p ∨ (p = .zeroPeriod ∧ interval.nanos = 0) ∨
    ∃ reading ∈ m.readings, Caller.Dateless handle reading
  ended : ∀ p, first = .panicked p → worker.stage = .panicked p
  stuck : interval.nanos = 0 → worker.stage = first ∨ worker.stage = .panicked .zeroPeriod

variable {first : WorkerStage} {interval : Duration} {handle : HealthHandle}

theorem Sound.moves (h : Sound first interval handle m worker) (hfirst : first = .idle ∨ ∃ p, first = .panicked p)
    {permits : Nat} {stage : WorkerStage} (hworker : m'.host.worker = some { worker with permits, stage })
    (hreadings : m.readings ⊆ m'.readings) (hmoves : Moves worker m'.readings stage) :
    Sound first interval handle m' { worker with permits, stage } := by
  obtain ⟨-, rfl, rfl, hpanicked, hover, hstuck⟩ := h
  -- A worker without time between its polls has not gone on from where it was first.
  have hnever : worker.pollInterval.nanos = 0 → (∀ p, worker.stage ≠ .panicked p) → worker.stage = .idle := by
    intro hzero hgoes
    rcases hstuck hzero with hstage | hstage
    · rcases hfirst with rfl | ⟨p, rfl⟩
      · exact hstage
      · exact absurd hstage (hgoes p)
    · exact absurd hstage (hgoes _)
  refine ⟨hworker, rfl, rfl, ?_, ?_, ?_⟩
  · intro p hp
    cases hmoves with
    | stays =>
      refine (hpanicked p hp).imp_right fun hother => hother.imp_right ?_
      rintro ⟨reading, hmem, hdateless⟩
      exact ⟨reading, hreadings hmem, hdateless⟩
    | goes _ _ _ hgoes => exact absurd hp (hgoes p)
    | noPeriod _ hzero =>
      cases hp
      exact .inr (.inl ⟨rfl, hzero⟩)
    | dateless _ reading _ _ hmem hdateless => exact .inr (.inr ⟨reading, hmem, hdateless⟩)
  · intro p hp
    have hstage := hover p hp
    cases hmoves with
    | stays => exact hstage
    | goes _ hgoes | dateless _ _ hgoes => exact absurd hstage (hgoes p)
    | noPeriod hidle => cases hstage.symm.trans hidle
  · intro hzero
    cases hmoves with
    | stays => exact hstuck hzero
    | goes _ hgoes hpositive => exact absurd hzero (hpositive (hnever hzero hgoes))
    | noPeriod => exact .inr rfl
    | dateless _ _ hgoes hbusy => exact absurd (hnever hzero hgoes) hbusy

/-- Where the loop of a worker starts. -/
def Entry.stage (s : Settings) : Entry → WorkerStage
  | .runs => .start s.queueConfig
  | .waits => .idle

theorem Entry.stage_eq (entry : Entry) (s : Settings) :
    entry.stage s = .idle ∨ ∃ p, entry.stage s = .panicked p := by
  cases entry with
  | runs => exact (WorkerStage.start_eq s.queueConfig).imp_right fun h => ⟨_, h⟩
  | waits => exact .inl rfl

theorem sound_start (entry : Entry) (s : Settings) (world : World) (handle : HealthHandle) :
    ∃ worker, Sound (entry.stage s) s.pollInterval handle (start entry s world handle) worker := by
  have hsound : ∀ permits, (start entry s world handle).host.worker =
      some ⟨s.consumer, s.pollInterval, handle, entry.stage s, permits⟩ →
      ∃ worker, Sound (entry.stage s) s.pollInterval handle (start entry s world handle) worker :=
    fun permits hworker => ⟨_, hworker, rfl, rfl, fun _ hp => .inl hp, fun _ hp => hp, fun _ => .inl rfl⟩
  cases entry with
  | runs => exact hsound _ (Host.worker_wake _ _)
  | waits => exact hsound 0 rfl

theorem Sound.of_run {entry : Entry} {s : Settings} {world : World}
    (hrun : Run (start entry s world handle) m) :
    ∃ worker, Sound (entry.stage s) s.pollInterval handle m worker := by
  induction hrun with
  | refl => exact sound_start entry s world handle
  | tail _ hstep ih =>
    obtain ⟨worker, h⟩ := ih
    obtain ⟨hreadings, permits, stage, hworker, hmoves⟩ := moves_of_step hstep h.present
    exact ⟨_, h.moves (entry.stage_eq s) hworker hreadings hmoves⟩

/-- Without time between its polls a worker panics in its turn. -/
theorem panics_in_turn {host : Host} {rest : List Task} (hready : host.ready = .worker :: rest)
    (hworker : host.worker = some worker) (hzero : worker.pollInterval.nanos = 0)
    (hstage : worker.stage = .idle ∨ worker.stage = .panicked .zeroPeriod) :
    ∃ host', host.step = some host' ∧ host'.worker = some { worker with stage := .panicked .zeroPeriod } := by
  unfold Host.step
  simp only [hready, hworker, Host.stepWorker]
  rcases hstage with hidle | hover
  · rw [hidle]
    simp only [if_pos hzero]
    exact ⟨_, rfl, rfl⟩
  · rw [hover]
    refine ⟨_, rfl, ?_⟩
    rw [← hover]
    exact hworker

/-- A worker whose polls are to follow one another at once is two turns away from its panic. -/
theorem exists_run_panicked (entry : Entry) {s : Settings} (world : World) (handle : HealthHandle)
    (hidle : entry.stage s = .idle) (hzero : s.pollInterval.nanos = 0) :
    ∃ m worker, Run (start entry s world handle) m ∧ m.host.worker = some worker ∧
      worker.stage = .panicked .zeroPeriod := by
  obtain ⟨worker, h⟩ := sound_start entry s world handle
  have hready : (start entry s world handle).host.ready = [.reporter, .worker] := by cases entry <;> rfl
  generalize hhost : ({ (start entry s world handle).host with ready := [.worker] } : Host) = host
  have hturn : (start entry s world handle).host.step = some host.applyReports := by
    rw [Host.step, hready, ← hhost]
  have hworker : host.worker = some worker := hhost ▸ h.present
  have hstage := hidle ▸ h.stuck hzero
  have hnext : host.applyReports.ready = [.worker] := by
    rw [Host.applyReports]
    simp only [hworker, Option.map_some]
    rcases hstage with hstage | hstage <;> rw [hstage, ← hhost]
  obtain ⟨after, hpanics, hafter⟩ := panics_in_turn hnext ((Host.worker_applyReports _).trans hworker)
    (h.period ▸ hzero) hstage
  exact ⟨_, _, .head (.turns hturn) (.single (.turns hpanics)), hafter, rfl⟩

open Settings in
/-- Of the workers with accepted settings, those panic that are to have too many permits, before anything else,
and those whose polls are to follow one another at once, in their first turn and before any poll. A worker
with other settings panics at nothing but a reading of the clock that is no date, whatever its queue holds and
whatever the stores answer. One that only waits for jobs needs no permits. -/
theorem panics_by_settings_or_date {env : Environment} {s : Settings} (hs : ofEnvironment env = .ok s)
    {entry : Entry} {world : World} (hrun : Run (start entry s world handle) m) :
    ∃ worker, m.host.worker = some worker ∧
      (∀ p, worker.stage = .panicked p →
        (p = .tooManyPermits ∧ entry = .runs ∧ env.Crowded) ∨ (p = .zeroPeriod ∧ env.Restless) ∨
          ∃ reading ∈ m.readings, Caller.Dateless handle reading) ∧
      (entry = .runs → env.Crowded → worker.stage = .panicked .tooManyPermits) ∧
      ((entry = .runs → ¬env.Crowded) → env.Restless →
        (worker.stage = .idle ∨ worker.stage = .panicked .zeroPeriod) ∧
        ∀ rest, m.host.ready = .worker :: rest → ∃ host, m.host.step = some host ∧
          host.worker = some { worker with stage := .panicked .zeroPeriod }) := by
  obtain ⟨worker, h⟩ := Sound.of_run hrun
  have hzero := Environment.restless_iff hs
  refine ⟨worker, h.present, fun p hp => ?_, ?_, fun hcounted hrestless => ?_⟩
  · rcases h.panicked p hp with hfirst | ⟨rfl, hperiod⟩ | hdateless
    · left
      cases entry with
      | runs =>
        by_cases hcrowded : env.Crowded
        · cases (Environment.start_of_crowded hs hcrowded).symm.trans hfirst
          exact ⟨rfl, rfl, hcrowded⟩
        · cases (Environment.start_of_not_crowded hs hcrowded).symm.trans hfirst
      | waits => cases hfirst
    · exact .inr (.inl ⟨rfl, hzero.2 hperiod⟩)
    · exact .inr (.inr hdateless)
  · rintro rfl hcrowded
    exact h.ended _ (Environment.start_of_crowded hs hcrowded)
  · have hidle : entry.stage s = .idle := by
      cases entry with
      | runs => exact Environment.start_of_not_crowded hs (hcounted rfl)
      | waits => rfl
    have hstage := h.stuck (hzero.1 hrestless)
    rw [hidle] at hstage
    refine ⟨hstage, fun rest hready => panics_in_turn hready h.present ?_ hstage⟩
    rw [h.period]
    exact hzero.1 hrestless

/-! ### A fixed run -/

/-- The host goes on for a while, with no readings of the clock but of that time. -/
theorem run_settle (steps : Nat) (m : Exposed) : ∃ readings, Run m ⟨m.host.settle steps, readings⟩ ∧
    ∀ reading ∈ readings, reading ∈ m.readings ∨ reading = m.host.world.wall := by
  induction steps generalizing m with
  | zero => exact ⟨m.readings, .refl, fun _ => .inl⟩
  | succ steps ih =>
    unfold Host.settle
    cases hstep : m.host.step with
    | none => exact ⟨m.readings, .refl, fun _ => .inl⟩
    | some host =>
      obtain ⟨readings, hrun, hreadings⟩ := ih ⟨host, m.host.world.wall :: m.readings⟩
      refine ⟨readings, .head (.turns hstep) hrun, ?_⟩
      intro reading hmem
      rcases hreadings reading hmem with hearlier | hnow
      · exact (List.mem_cons.1 hearlier).symm
      · exact .inr (hnow.trans (Host.clocks_of_step hstep).1)

/-- Polls as often as can be, and as many jobs at once as can be. -/
def sampleSettings : Settings.Environment :=
  [("POLL_INTERVAL", "1"), ("CONCURRENCY", "2305843009213693951")]

/-- The store of a worker with such settings does not answer the first poll in time. -/
theorem sample_settings_run : ∃ (s : Settings) (m : Exposed) (worker : Worker),
    Settings.ofEnvironment sampleSettings = .ok s ∧
    Run (start .runs s { World.new [] false 0 with jobs := Client.empty.stall .zrangebyscore 1 } ⟨"worker", .ofMillis 60000⟩) m ∧
    m.host.worker = some worker ∧ (worker.stage matches .failed (.store .timeout)) = true ∧
    ∀ p, worker.stage ≠ .panicked p := by
  let world : World := { World.new [] false 0 with jobs := Client.empty.stall .zrangebyscore 1 }
  obtain ⟨s, hs, hfailed⟩ : ∃ s, Settings.ofEnvironment sampleSettings = .ok s ∧
      (((start .runs s world ⟨"worker", .ofMillis 60000⟩).host.settle 6).worker.any fun worker =>
        worker.stage matches .failed (.store .timeout)) = true :=
    ⟨_, by with_unfolding_all rfl, by decide +kernel⟩
  obtain ⟨readings, hrun, hreadings⟩ := run_settle 6 (start .runs s world ⟨"worker", .ofMillis 60000⟩)
  obtain ⟨worker, hworker, hpanicked, -⟩ := panics_by_settings_or_date hs hrun
  rw [hworker] at hfailed
  refine ⟨s, _, worker, hs, hrun, hworker, hfailed, ?_⟩
  intro p hp
  rcases hpanicked p hp with ⟨-, -, n, hread, hmore⟩ | ⟨-, hrestless⟩ | ⟨reading, hmem, p', hdateless⟩
  · cases hread
    exact absurd hmore (by decide)
  · cases hrestless
  · rcases hreadings reading hmem with hnone | rfl
    · cases hnone
    · rcases hdateless with hdateless | hdateless <;> cases hdateless

/-- No time between polls, or one permit too many: both are accepted. -/
theorem sample_settings_panic :
    (∃ s, Settings.ofEnvironment [("POLL_INTERVAL", "0")] = .ok s ∧ ∀ entry, ∃ m worker,
      Run (start entry s (World.new [] false 0) ⟨"worker", .ofMillis 60000⟩) m ∧ m.host.worker = some worker ∧
      worker.stage = .panicked .zeroPeriod) ∧
    ∃ s worker, Settings.ofEnvironment [("CONCURRENCY", "2305843009213693952")] = .ok s ∧
      (start .runs s (World.new [] false 0) ⟨"worker", .ofMillis 60000⟩).host.worker = some worker ∧
      worker.stage = .panicked .tooManyPermits := by
  constructor
  · obtain ⟨s, hs, hzero⟩ : ∃ s, Settings.ofEnvironment [("POLL_INTERVAL", "0")] = .ok s ∧
        s.pollInterval.nanos = 0 := ⟨_, by with_unfolding_all rfl, by decide +kernel⟩
    have hcounted : ¬Settings.Environment.Crowded [("POLL_INTERVAL", "0")] := by
      rintro ⟨n, hread, hmore⟩
      cases hread
      exact absurd hmore (by decide)
    refine ⟨s, hs, fun entry => exists_run_panicked entry _ _ ?_ hzero⟩
    cases entry with
    | runs => exact Settings.Environment.start_of_not_crowded hs hcounted
    | waits => rfl
  · obtain ⟨s, hs⟩ : ∃ s, Settings.ofEnvironment [("CONCURRENCY", "2305843009213693952")] = .ok s :=
      ⟨_, by with_unfolding_all rfl⟩
    obtain ⟨worker, h⟩ := sound_start .runs s (World.new [] false 0) ⟨"worker", .ofMillis 60000⟩
    refine ⟨s, worker, hs, h.present, h.ended _ (Settings.Environment.start_of_crowded hs ?_)⟩
    exact ⟨_, by with_unfolding_all rfl, by decide⟩

end Exposed

end JobQueue
