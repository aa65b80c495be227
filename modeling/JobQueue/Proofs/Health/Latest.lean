import JobQueue.Host
import JobQueue.Http.Endpoints
import JobQueue.Proofs.Health.Reports
import Mathlib.Data.List.Nodup
import Mathlib.Logic.Relation

/-! Health is the conjunction of the latest reports. Any number of tasks register components and report for
them, each report waits until there is room in the queue, and the queued reports are applied one by one. Once all
of them are, the state of the process shows for every registered name the status that was sent last, and the
process is healthy if there are components and each of these statuses has yet to expire. -/

namespace JobQueue

namespace HealthRegistry

/-! ### Looking at a registry -/

/-- What is seen of a process when the wall clock shows a reading: whether it is healthy, and how its components
are. -/
def look (registry : HealthRegistry) (reading : Int) : Except Panic (Bool × List (String × HealthStatus)) :=
  (Clock.reportTime reading).map fun now => (registry.isHealthy now, registry.shownAt now)

/-- What was seen, for display. -/
def lookText (healthy : Bool) (shown : List (String × HealthStatus)) : String :=
  "HealthStatus \x7b healthy: " ++ (if healthy then "true" else "false") ++ ", components: \x7b"
    ++ String.intercalate ", " (shown.map componentText) ++ "\x7d \x7d"

theorem look_eq {registry : HealthRegistry} {reading : Int} (h : Clock.isWritten reading = true) :
    registry.look reading = .ok (registry.isHealthy reading, registry.shownAt reading) := by
  rw [look, Clock.reportTime_eq_ok.2 ⟨rfl, h⟩]
  rfl

theorem exists_look_error {registry : HealthRegistry} {reading : Int} (h : Clock.isWritten reading = false) :
    ∃ p, registry.look reading = .error p := by
  cases htime : Clock.reportTime reading with
  | error p => exact ⟨p, by rw [look, htime]; rfl⟩
  | ok time =>
    obtain ⟨-, hwritten⟩ := Clock.reportTime_eq_ok.1 htime
    rw [h] at hwritten
    cases hwritten

/-- The endpoint looks at the registry, and changes nothing. -/
theorem run_liveness (endpoints : Http.Endpoints) (world : World) :
    endpoints.liveness.run world = (world, (endpoints.health.look world.wall).map fun (healthy, shown) =>
      Http.Response.plain (if healthy then 200 else 500) (lookText healthy shown)) := by
  cases htime : Clock.reportTime world.wall with
  | error p =>
    simp only [Http.Endpoints.liveness, Program.reportTime, Program.bind_eq, Program.bind, Program.run,
      World.perform, look, htime]
    rfl
  | ok time =>
    simp only [Http.Endpoints.liveness, Program.reportTime, Program.bind_eq, Program.bind, Program.run,
      World.perform, look, htime]
    rfl

/-! ### Components of a registry -/

variable {components components' : List (String × HealthStatus)} {report : HealthReport} {name : String}
  {status : HealthStatus}

/-- A report adds its component unless it is there. -/
theorem map_fst_insert (report : HealthReport) (components : List (String × HealthStatus)) :
    (insert report components).map Prod.fst =
      if report.component ∈ components.map Prod.fst then components.map Prod.fst
      else components.map Prod.fst ++ [report.component] := by
  induction components with
  | nil => rfl
  | cons component components ih =>
    obtain ⟨other, status⟩ := component
    rw [insert]
    by_cases hother : other = report.component
    · simp [hother]
    · rw [if_neg hother, List.map_cons, ih]
      by_cases hmem : report.component ∈ components.map Prod.fst
      · simp [hmem]
      · simp [hmem, Ne.symm hother]

theorem nodup_insert (h : (components.map Prod.fst).Nodup) :
    ((insert report components).map Prod.fst).Nodup := by
  rw [map_fst_insert]
  split
  next => exact h
  next hnew =>
    rw [← List.concat_eq_append]
    exact List.Nodup.concat hnew h

/-- If every name is there once, its status is the one that is found. -/
theorem mem_iff_lookup (h : (components.map Prod.fst).Nodup) :
    (name, status) ∈ components ↔ components.lookup name = some status := by
  induction components with
  | nil => simp
  | cons component components ih =>
    obtain ⟨other, status'⟩ := component
    obtain ⟨hnew, hrest⟩ := List.nodup_cons.1 h
    by_cases hname : name = other
    · subst hname
      have habsent : (name, status) ∉ components := fun hmem =>
        hnew (List.mem_map.2 ⟨_, hmem, rfl⟩)
      simp [habsent, eq_comm]
    · rw [List.lookup_cons, beq_false_of_ne hname, List.mem_cons, ih hrest]
      simp [hname]

/-! ### Applying reports -/

/-- Applies the oldest report that is queued. -/
def applyFirst (registry : HealthRegistry) : HealthRegistry :=
  match registry.queued with
  | [] => registry
  | report :: rest => ⟨insert report registry.components, rest⟩

variable (registry : HealthRegistry)

/-- To apply a report changes nothing about what is known once all are applied. -/
@[simp] theorem applyQueued_applyFirst : registry.applyFirst.applyQueued = registry.applyQueued := by
  obtain ⟨components, queued⟩ := registry
  cases queued <;> rfl

@[simp] theorem latest?_applyFirst (name : String) : registry.applyFirst.latest? name = registry.latest? name := by
  rw [latest?, applyQueued_applyFirst, latest?]

end HealthRegistry

/-! ### Tasks that report -/

/-- A report that waits until there is room in the queue. -/
inductive Sending where
  /-- The first report of a component. There is a handle once it is queued. -/
  | register (handle : HealthHandle)
  | report (report : HealthReport)

namespace Sending

def sent : Sending → HealthReport
  | register handle => ⟨handle.component, .starting⟩
  | report r => r

def gains : Sending → Option HealthHandle
  | register handle => some handle
  | report _ => none

end Sending

/-- A registry among the tasks that use it. -/
structure Monitor where
  registry : HealthRegistry
  wall : Int
  /-- The handles of registered components. -/
  handles : List HealthHandle
  sending : List Sending
  /-- All reports that were queued, the last one first. -/
  sent : List HealthReport

namespace Monitor

/-- A registry that nobody has used yet. -/
def start (wall : Int) : Monitor :=
  ⟨.empty, wall, [], [], []⟩

/-- What can happen next. Anyone may register a component, and any handle may be used to report any status, or
to report that its component is healthy from now on. -/
inductive Step : Monitor → Monitor → Prop where
  | registers {m : Monitor} (handle : HealthHandle) :
      Step m { m with sending := .register handle :: m.sending }
  | reports {m : Monitor} (handle : HealthHandle) (status : HealthStatus) (h : handle ∈ m.handles) :
      Step m { m with sending := .report ⟨handle.component, status⟩ :: m.sending }
  | reportsHealthy {m : Monitor} (handle : HealthHandle) (status : HealthStatus) (h : handle ∈ m.handles)
      (hstatus : HealthStatus.healthyFor m.wall handle.deadline = .ok status) :
      Step m { m with sending := .report ⟨handle.component, status⟩ :: m.sending }
  /-- A report is queued, of those that wait any one. -/
  | sends {m : Monitor} (call : Sending) (left right : List Sending) (h : m.sending = left ++ call :: right)
      (hroom : m.registry.isFull = false) :
      Step m { m with
        registry := m.registry.enqueue call.sent
        handles := call.gains.toList ++ m.handles
        sending := left ++ right
        sent := call.sent :: m.sent }
  /-- A task that waits is given up. -/
  | abandons {m : Monitor} (call : Sending) (left right : List Sending)
      (h : m.sending = left ++ call :: right) : Step m { m with sending := left ++ right }
  | applies {m : Monitor} : Step m { m with registry := m.registry.applyFirst }
  /-- The clock goes on, or is set to anything. -/
  | clock {m : Monitor} (wall : Int) : Step m { m with wall := wall }

abbrev Run : Monitor → Monitor → Prop :=
  Relation.ReflTransGen Step

/-- What a run of a new registry can lead to. -/
abbrev Reachable (m : Monitor) : Prop :=
  ∃ wall, Run (start wall) m

/-- The status that was sent last for a name. -/
def lastSent? (m : Monitor) (name : String) : Option HealthStatus :=
  (m.sent.find? fun report => report.component == name).map HealthReport.status

/-- The names of registered components. -/
def IsRegistered (m : Monitor) (name : String) : Prop :=
  ∃ handle ∈ m.handles, handle.component = name

/-- What the registry knows of the reports that were sent. -/
structure Sound (m : Monitor) : Prop where
  nodup : (m.registry.components.map Prod.fst).Nodup
  latest : ∀ name, m.registry.latest? name = m.lastSent? name
  registered : ∀ name, m.IsRegistered name ↔ (m.lastSent? name).isSome = true
  sending : ∀ report, .report report ∈ m.sending → m.IsRegistered report.component
  room : m.registry.queued.length ≤ HealthRegistry.capacity

theorem sound_start (wall : Int) : (start wall).Sound where
  nodup := List.nodup_nil
  latest _ := rfl
  registered name := by simp [IsRegistered, start, lastSent?]
  sending := by simp [start]
  room := Nat.zero_le _

theorem lastSent?_cons {m m' : Monitor} {report : HealthReport} (h : m'.sent = report :: m.sent) (name : String) :
    m'.lastSent? name = if name = report.component then some report.status else m.lastSent? name := by
  rw [lastSent?, h, List.find?_cons]
  by_cases hname : name = report.component
  · simp [hname]
  · rw [if_neg hname, beq_false_of_ne (Ne.symm hname)]
    rfl

theorem isRegistered_of_mem {m : Monitor} {handle : HealthHandle} (h : handle ∈ m.handles) :
    m.IsRegistered handle.component :=
  ⟨handle, h, rfl⟩

/-- A report that a handle makes is for a registered component. -/
theorem Sound.reports {m : Monitor} (h : m.Sound) {handle : HealthHandle} (hhandle : handle ∈ m.handles)
    (status : HealthStatus) :
    Sound { m with sending := .report ⟨handle.component, status⟩ :: m.sending } := by
  refine ⟨h.nodup, h.latest, h.registered, fun report hreport => ?_, h.room⟩
  obtain heq | hold := List.mem_cons.1 hreport
  · obtain rfl := Sending.report.inj heq
    exact isRegistered_of_mem hhandle
  · exact h.sending report hold

/-- A report that is queued is the last one that was sent. -/
theorem Sound.sends {m : Monitor} (h : m.Sound) {call : Sending} {left right : List Sending}
    (hsending : m.sending = left ++ call :: right) (hroom : m.registry.isFull = false) :
    Sound { m with
      registry := m.registry.enqueue call.sent
      handles := call.gains.toList ++ m.handles
      sending := left ++ right
      sent := call.sent :: m.sent } := by
  have hkept : ∀ name, m.IsRegistered name →
      IsRegistered { m with handles := call.gains.toList ++ m.handles } name := by
    rintro name ⟨handle, hhandle, hname⟩
    exact ⟨handle, List.mem_append_right _ hhandle, hname⟩
  have hsent : IsRegistered { m with handles := call.gains.toList ++ m.handles } call.sent.component := by
    cases call with
    | register handle => exact isRegistered_of_mem List.mem_cons_self
    | report r =>
      refine hkept _ (h.sending r ?_)
      rw [hsending]
      exact List.mem_append_right _ List.mem_cons_self
  refine ⟨h.nodup, fun name => ?_, fun name => ?_, fun r hr => ?_, ?_⟩
  · rw [lastSent?_cons (m := m) rfl, HealthRegistry.latest?_enqueue, h.latest]
  · rw [lastSent?_cons (m := m) rfl]
    by_cases hname : name = call.sent.component
    · rw [if_pos hname, hname]
      exact ⟨fun _ => rfl, fun _ => hsent⟩
    · rw [if_neg hname, ← h.registered]
      refine ⟨?_, hkept name⟩
      rintro ⟨handle, hhandle, rfl⟩
      obtain hnew | hold := List.mem_append.1 hhandle
      · cases call with
        | register handle' =>
          obtain rfl := List.mem_singleton.1 hnew
          exact absurd rfl hname
        | report => cases hnew
      · exact isRegistered_of_mem hold
  · refine hkept _ (h.sending r ?_)
    rw [hsending]
    exact ((List.sublist_cons_self _ right).append_left left).mem hr
  · have hfew : ¬HealthRegistry.capacity ≤ m.registry.queued.length := of_decide_eq_false hroom
    show (m.registry.queued ++ [call.sent]).length ≤ _
    rw [List.length_append, List.length_singleton]
    omega

theorem Sound.applies {m : Monitor} (h : m.Sound) : Sound { m with registry := m.registry.applyFirst } := by
  refine ⟨?_, fun name => ?_, h.registered, h.sending, ?_⟩
  · obtain ⟨⟨components, queued⟩, wall, handles, sending, sent⟩ := m
    cases queued with
    | nil => exact h.nodup
    | cons report queued => exact HealthRegistry.nodup_insert h.nodup
  · exact (HealthRegistry.latest?_applyFirst ..).trans (h.latest name)
  · obtain ⟨⟨components, queued⟩, wall, handles, sending, sent⟩ := m
    cases queued with
    | nil => exact h.room
    | cons report queued => exact Nat.le_of_succ_le h.room

theorem Sound.step {m m' : Monitor} (h : m.Sound) (hstep : Step m m') : m'.Sound := by
  cases hstep with
  | registers handle =>
    refine ⟨h.nodup, h.latest, h.registered, fun report hreport => ?_, h.room⟩
    exact h.sending report ((List.mem_cons.1 hreport).resolve_left nofun)
  | reports handle status hhandle => exact h.reports hhandle status
  | reportsHealthy handle status hhandle => exact h.reports hhandle status
  | sends call left right hsending hroom => exact h.sends hsending hroom
  | abandons call left right hsending =>
    refine ⟨h.nodup, h.latest, h.registered, fun report hreport => h.sending report ?_, h.room⟩
    rw [hsending]
    exact ((List.sublist_cons_self _ right).append_left left).mem hreport
  | applies => exact h.applies
  | clock wall => exact ⟨h.nodup, h.latest, h.registered, h.sending, h.room⟩

theorem Sound.run {m m' : Monitor} (h : m.Sound) (hrun : Run m m') : m'.Sound := by
  induction hrun with
  | refl => exact h
  | tail _ hstep ih => exact ih.step hstep

theorem Reachable.sound {m : Monitor} (h : Reachable m) : m.Sound := by
  obtain ⟨wall, hrun⟩ := h
  exact (sound_start wall).run hrun

/-! ### What is seen -/

/-- How a status shows that was sent: if it has expired, as stalled, and as it was sent otherwise. -/
inductive Shows (now : Int) : HealthStatus → HealthStatus → Prop where
  | expired (deadline : Int) (h : deadline ≤ now) : Shows now (.healthyUntil deadline) .stalled
  | kept (status : HealthStatus) (h : ∀ deadline, status = .healthyUntil deadline → now < deadline) :
      Shows now status status

theorem shows_shownAt (now : Int) (status : HealthStatus) : Shows now status (status.shownAt now) := by
  cases status with
  | healthyUntil deadline =>
    rw [HealthStatus.shownAt]
    split
    next hlater => exact .kept _ fun other hother => HealthStatus.healthyUntil.inj hother ▸ hlater
    next hearlier => exact .expired deadline (Int.not_lt.1 hearlier)
  | _ => exact .kept _ nofun

/-- What is seen at `now` is the conjunction of the reports that were sent last. -/
structure Tells (m : Monitor) (now : Int) (healthy : Bool) (shown : List (String × HealthStatus)) : Prop where
  nodup : (shown.map Prod.fst).Nodup
  names : ∀ name, name ∈ shown.map Prod.fst ↔ m.IsRegistered name
  statuses : ∀ name status, (name, status) ∈ shown →
    ∃ last, m.lastSent? name = some last ∧ Shows now last status
  healthy : healthy = true ↔ (∃ name, m.IsRegistered name) ∧ ∀ name, m.IsRegistered name →
    ∃ deadline, m.lastSent? name = some (.healthyUntil deadline) ∧ now < deadline

variable {m : Monitor}

/-- Once all reports are applied, the components are as they were reported last. -/
theorem Sound.mem_components (h : m.Sound) (happlied : m.registry.queued = []) {name : String}
    {status : HealthStatus} : (name, status) ∈ m.registry.components ↔ m.lastSent? name = some status := by
  rw [HealthRegistry.mem_iff_lookup h.nodup, ← h.latest,
    HealthRegistry.latest?_of_queued_eq_nil happlied, HealthRegistry.applied?]

theorem Sound.isRegistered_iff (h : m.Sound) (happlied : m.registry.queued = []) {name : String} :
    m.IsRegistered name ↔ ∃ status, (name, status) ∈ m.registry.components := by
  rw [h.registered, Option.isSome_iff_exists]
  exact exists_congr fun status => (h.mem_components happlied).symm

theorem isHealthy_eq_true {now : Int} {status : HealthStatus} :
    status.isHealthy now = true ↔ ∃ deadline, status = .healthyUntil deadline ∧ now < deadline := by
  cases status <;> simp [HealthStatus.isHealthy]

theorem map_fst_shownAt (registry : HealthRegistry) (now : Int) :
    (registry.shownAt now).map Prod.fst = registry.components.map Prod.fst := by
  rw [HealthRegistry.shownAt, List.map_map]
  rfl

theorem Sound.tells (h : m.Sound) (happlied : m.registry.queued = []) (now : Int) :
    m.Tells now (m.registry.isHealthy now) (m.registry.shownAt now) := by
  have hregistered : ∀ name, m.IsRegistered name ↔ ∃ status, (name, status) ∈ m.registry.components :=
    fun _ => h.isRegistered_iff happlied
  refine ⟨?_, fun name => ?_, fun name status hmem => ?_, ?_⟩
  · rw [map_fst_shownAt]
    exact h.nodup
  · rw [map_fst_shownAt, hregistered]
    simp
  · obtain ⟨⟨name', last⟩, hcomponent, heq⟩ := List.mem_map.1 hmem
    obtain ⟨rfl, rfl⟩ := Prod.mk.inj heq
    exact ⟨last, (h.mem_components happlied).1 hcomponent, shows_shownAt now last⟩
  · have hsome : m.registry.components.isEmpty = false ↔ ∃ name, m.IsRegistered name := by
      simp only [hregistered, List.isEmpty_eq_false_iff_exists_mem, Prod.exists]
    rw [HealthRegistry.isHealthy, Bool.and_eq_true, Bool.not_eq_true', hsome, List.all_eq_true]
    refine and_congr_right fun _ => ⟨fun hall name hname => ?_, fun hall component hcomponent => ?_⟩
    · obtain ⟨status, hmem⟩ := (hregistered name).1 hname
      obtain ⟨deadline, rfl, hlater⟩ := isHealthy_eq_true.1 (hall _ hmem)
      exact ⟨deadline, (h.mem_components happlied).1 hmem, hlater⟩
    · obtain ⟨name, status⟩ := component
      obtain ⟨deadline, hlast, hlater⟩ := hall name ((hregistered name).2 ⟨status, hcomponent⟩)
      rw [(h.mem_components happlied).1 hcomponent] at hlast
      exact isHealthy_eq_true.2 ⟨deadline, Option.some.inj hlast, hlater⟩

/-- It does not matter in which order the components are looked at. -/
theorem look_perm {components components' : List (String × HealthStatus)} {queued : List HealthReport}
    {reading : Int} (h : components'.Perm components) (hwall : Clock.isWritten reading = true) :
    ∃ shown', HealthRegistry.look ⟨components', queued⟩ reading =
        .ok (HealthRegistry.isHealthy ⟨components, queued⟩ reading, shown') ∧
      shown'.Perm (HealthRegistry.shownAt ⟨components, queued⟩ reading) := by
  have hhealthy : HealthRegistry.isHealthy ⟨components', queued⟩ reading =
      HealthRegistry.isHealthy ⟨components, queued⟩ reading := by
    rw [HealthRegistry.isHealthy, HealthRegistry.isHealthy, h.isEmpty_eq, h.all_eq]
  refine ⟨_, ?_, h.map _⟩
  rw [HealthRegistry.look_eq hwall, hhealthy]
  rfl

/-- A report was queued and applied, if there was nothing to apply before it. -/
def posted (m : Monitor) (call : Sending) : Monitor :=
  { m with
    registry := (m.registry.enqueue call.sent).applyFirst
    handles := call.gains.toList ++ m.handles
    sent := call.sent :: m.sent }

theorem run_registers (m : Monitor) (hroom : m.registry.isFull = false) (handle : HealthHandle) :
    Run m (m.posted (.register handle)) := by
  have hregisters : Run m _ := .single (.registers handle)
  exact (hregisters.tail (.sends (.register handle) [] m.sending rfl hroom)).tail .applies

theorem run_reports (hroom : m.registry.isFull = false) (handle : HealthHandle) (hhandle : handle ∈ m.handles)
    {status : HealthStatus} (hstatus : HealthStatus.healthyFor m.wall handle.deadline = .ok status) :
    Run m (m.posted (.report ⟨handle.component, status⟩)) := by
  have hreports : Run m _ := .single (.reportsHealthy handle status hhandle hstatus)
  exact (hreports.tail (.sends (.report ⟨handle.component, status⟩) [] m.sending rfl hroom)).tail .applies

/-- A report that is made while nothing is queued can be sent and applied. -/
theorem exists_run_report (happlied : m.registry.queued = []) {handle : HealthHandle}
    (hhandle : handle ∈ m.handles) {status : HealthStatus}
    (hstatus : HealthStatus.healthyFor m.wall handle.deadline = .ok status) :
    ∃ m', Run m m' ∧ m'.registry.queued = [] ∧ m'.sent = ⟨handle.component, status⟩ :: m.sent := by
  have hroom : m.registry.isFull = false := by
    rw [HealthRegistry.isFull, happlied]
    rfl
  refine ⟨_, run_reports hroom handle hhandle hstatus, ?_, rfl⟩
  simp [posted, HealthRegistry.applyFirst, HealthRegistry.enqueue, happlied]

/-- A status that was sent last and has not expired shows. -/
theorem Sound.mem_shownAt (h : m.Sound) (happlied : m.registry.queued = []) {name : String} {deadline now : Int}
    (hlast : m.lastSent? name = some (.healthyUntil deadline)) (hlater : now < deadline) :
    (name, .healthyUntil deadline) ∈ m.registry.shownAt now := by
  refine List.mem_map.2 ⟨(name, .healthyUntil deadline), (h.mem_components happlied).2 hlast, ?_⟩
  have hshown : (HealthStatus.healthyUntil deadline).shownAt now = .healthyUntil deadline := if_pos hlater
  exact congrArg (Prod.mk name) hshown

/-- Whatever tasks register and report, once the queued reports are applied, and if the clock shows a time that it
can show, what is seen of a process is the conjunction of the reports that were sent last. It does not depend on the
order of the components, to look changes nothing, and a component that is reported to be healthy once more shows as
healthy as soon as that report is applied. -/
theorem status_is_latest (h : Reachable m) (happlied : m.registry.queued = []) :
    (Clock.isWritten m.wall = false → ∃ p, m.registry.look m.wall = .error p) ∧
    (Clock.isWritten m.wall = true → ∃ healthy shown, m.registry.look m.wall = .ok (healthy, shown) ∧
      m.Tells m.wall healthy shown ∧
      ∀ components, components.Perm m.registry.components →
        ∃ shown', HealthRegistry.look ⟨components, []⟩ m.wall = .ok (healthy, shown') ∧ shown'.Perm shown) ∧
    (∀ (endpoints : Http.Endpoints) (host : Host), endpoints.health = m.registry → host.world.wall = m.wall →
      host.run endpoints.liveness = (host, (m.registry.look m.wall).map fun (healthy, shown) =>
        .plain (if healthy then 200 else 500) (HealthRegistry.lookText healthy shown))) ∧
    ∀ handle ∈ m.handles, ∀ deadline,
      HealthStatus.healthyFor m.wall handle.deadline = .ok (.healthyUntil deadline) →
      (∃ m', Run m m' ∧ m'.registry.queued = [] ∧
        m'.sent = ⟨handle.component, .healthyUntil deadline⟩ :: m.sent) ∧
      ∀ m', Run m m' → m'.registry.queued = [] →
        m'.sent = ⟨handle.component, .healthyUntil deadline⟩ :: m.sent →
        Clock.isWritten m'.wall = true → m'.wall < deadline →
        ∃ healthy shown, m'.registry.look m'.wall = .ok (healthy, shown) ∧
          (handle.component, .healthyUntil deadline) ∈ shown := by
  have hsound := h.sound
  refine ⟨HealthRegistry.exists_look_error, fun hwall => ?_, fun endpoints host hhealth hsame => ?_,
    fun handle hhandle deadline hstatus => ⟨exists_run_report happlied hhandle hstatus, ?_⟩⟩
  · refine ⟨_, _, HealthRegistry.look_eq hwall, hsound.tells happlied m.wall, fun components hperm => ?_⟩
    obtain ⟨⟨components', queued⟩, wall, handles, sending, sent⟩ := m
    obtain rfl : queued = [] := happlied
    exact look_perm hperm hwall
  · rw [Host.run, HealthRegistry.run_liveness, hhealth, hsame]
  · intro m' hrun happlied' hsent hwall hlater
    have hlast := lastSent?_cons hsent handle.component
    rw [if_pos rfl] at hlast
    exact ⟨_, _, HealthRegistry.look_eq hwall, (hsound.run hrun).mem_shownAt happlied' hlast hlater⟩

/-! ### Fixed inputs -/

/-- Healthy for half a minute after a report, and for a nanosecond longer. -/
def sampleWorker : HealthHandle :=
  ⟨"worker", .ofMillis 30000⟩

def sampleServer : HealthHandle :=
  ⟨"server", ⟨30000000001⟩⟩

/-- Both components have reported, and the time of the first one is over. -/
def sampleExpired : Monitor :=
  let m := ((start 0).posted (.register sampleWorker)).posted (.register sampleServer)
  { (m.posted (.report ⟨"worker", .healthyUntil 30000000000⟩)).posted
      (.report ⟨"server", .healthyUntil 30000000001⟩) with wall := 30000000000 }

/-- It has reported once more. -/
def sampleRenewed : Monitor :=
  sampleExpired.posted (.report ⟨"worker", .healthyUntil 60000000000⟩)

theorem run_sampleExpired : Run (start 0) sampleExpired := by
  have hregistered := ((start 0).run_registers rfl sampleWorker).trans (run_registers _ rfl sampleServer)
  have hworker := hregistered.trans (run_reports rfl sampleWorker (by decide) rfl)
  have hserver := hworker.trans (run_reports rfl sampleServer (by decide) rfl)
  exact hserver.tail (.clock 30000000000)

theorem run_sampleRenewed : Run (start 0) sampleRenewed :=
  run_sampleExpired.trans (run_reports rfl sampleWorker (by decide) rfl)

/-- One of the two components is healthy until exactly now, and so it is stalled, and the process is not healthy. Once
that component has reported again, it is. -/
theorem sample_deadline_now :
    sampleExpired.registry.look sampleExpired.wall =
      .ok (false, [("worker", .stalled), ("server", .healthyUntil 30000000001)]) ∧
    sampleExpired.Tells sampleExpired.wall false
      [("worker", .stalled), ("server", .healthyUntil 30000000001)] ∧
    sampleRenewed.Tells sampleRenewed.wall true
      [("worker", .healthyUntil 60000000000), ("server", .healthyUntil 30000000001)] := by
  have hseen : sampleExpired.registry.look sampleExpired.wall =
      .ok (false, [("worker", .stalled), ("server", .healthyUntil 30000000001)]) := by decide +kernel
  have hrenewed : sampleRenewed.registry.look sampleRenewed.wall =
      .ok (true, [("worker", .healthyUntil 60000000000), ("server", .healthyUntil 30000000001)]) := by
    decide +kernel
  obtain ⟨-, hknown, -⟩ := status_is_latest ⟨0, run_sampleExpired⟩ rfl
  obtain ⟨healthy, shown, hlook, htells, -⟩ := hknown (by decide +kernel)
  obtain ⟨-, hknown', -⟩ := status_is_latest ⟨0, run_sampleRenewed⟩ rfl
  obtain ⟨healthy', shown', hlook', htells', -⟩ := hknown' (by decide +kernel)
  obtain ⟨rfl, rfl⟩ := Prod.mk.inj (Except.ok.inj (hseen.symm.trans hlook))
  obtain ⟨rfl, rfl⟩ := Prod.mk.inj (Except.ok.inj (hrenewed.symm.trans hlook'))
  exact ⟨hseen, htells, htells'⟩

/-- When the clock shows a time that it cannot show, nothing is seen at all. -/
theorem sample_unseen : Reachable (start Clock.latest) ∧ (start Clock.latest).registry.queued = [] ∧
    (start Clock.latest).registry.look Clock.latest = .error .dateSumOverflow ∧
    ¬∃ healthy shown, (start Clock.latest).registry.look Clock.latest = .ok (healthy, shown) := by
  have hlook : (start Clock.latest).registry.look Clock.latest = .error .dateSumOverflow := by decide +kernel
  refine ⟨⟨Clock.latest, .refl⟩, rfl, hlook, ?_⟩
  rintro ⟨healthy, shown, hseen⟩
  rw [hlook] at hseen
  cases hseen

end Monitor

end JobQueue
