import JobQueue.Health

/-! What a report says, and what a registry knows of one component: the status that was applied last, and the
one that it will have once all queued reports are applied. -/

namespace JobQueue

theorem Clock.reportTime_eq_ok {reading time : Int} :
    reportTime reading = .ok time ↔ reading = time ∧ isWritten reading = true := by
  unfold reportTime
  split
  next h => simp [h]
  next h => repeat' split <;> simp [h]

/-- A component can report as long as the time of the report and its end have a written form. -/
theorem HealthStatus.healthyFor_eq_ok {reading : Int} {span : Time.Span} {status : HealthStatus} :
    healthyFor reading span = .ok status ↔ Clock.isWritten reading = true ∧
      Clock.isWritten (reading + span.nanos) = true ∧
      status = .healthyUntil (reading + span.nanos) := by
  unfold healthyFor
  cases hread : Clock.reportTime reading with
  | error p =>
    have hunwritten : ¬Clock.isWritten reading = true := by
      intro hwritten
      rw [Clock.reportTime_eq_ok.2 ⟨rfl, hwritten⟩] at hread
      cases hread
    exact ⟨nofun, fun h => absurd h.1 hunwritten⟩
  | ok time =>
    obtain ⟨rfl, hwritten⟩ := Clock.reportTime_eq_ok.1 hread
    simp only [bind, Except.bind, hwritten, true_and]
    split
    next hend => exact ⟨fun h => ⟨hend, (Except.ok.inj h).symm⟩, fun h => congrArg _ h.2.symm⟩
    next hend => exact ⟨nofun, fun h => absurd h.1 hend⟩

namespace HealthRegistry

/-- How a component shows at `now`, if it was ever registered. -/
def shown? (registry : HealthRegistry) (name : String) (now : Int) : Option HealthStatus :=
  (registry.shownAt now).lookup name

/-- The last status of a component that was applied. -/
def applied? (registry : HealthRegistry) (name : String) : Option HealthStatus :=
  registry.components.lookup name

/-- The last status that was reported for a component, applied or not. -/
def latest? (registry : HealthRegistry) (name : String) : Option HealthStatus :=
  registry.applyQueued.applied? name

theorem lookup_insert (report : HealthReport) (components : List (String × HealthStatus)) (name : String) :
    (insert report components).lookup name =
      if name = report.component then some report.status else components.lookup name := by
  have hcons : ∀ (key : String) (status : HealthStatus) (rest : List (String × HealthStatus)),
      ((key, status) :: rest).lookup name = if name = key then some status else rest.lookup name := by
    intro key status rest
    by_cases h : name = key
    · rw [if_pos h, List.lookup_cons, beq_iff_eq.2 h]
    · rw [if_neg h, List.lookup_cons, beq_false_of_ne h]
  induction components with
  | nil => exact hcons ..
  | cons component components ih =>
    obtain ⟨other, status⟩ := component
    rw [insert]
    by_cases hother : other = report.component
    · rw [if_pos hother, hcons, hcons, hother]
      split <;> rfl
    · rw [if_neg hother, hcons, hcons, ih]
      by_cases h : name = other
      · rw [if_pos h, if_pos h, h, if_neg hother]
      · rw [if_neg h, if_neg h]

theorem shown?_eq (registry : HealthRegistry) (name : String) (now : Int) :
    registry.shown? name now = (registry.applied? name).map (HealthStatus.shownAt now) := by
  unfold shown? applied?
  rw [shownAt]
  induction registry.components with
  | nil => rfl
  | cons component components ih =>
    obtain ⟨other, status⟩ := component
    rw [List.map_cons, List.lookup_cons, List.lookup_cons, ih]
    cases name == other <;> rfl

variable {registry : HealthRegistry} {name : String}

theorem latest?_of_queued_eq_nil (h : registry.queued = []) : registry.latest? name = registry.applied? name := by
  rw [latest?, applied?, applyQueued, h]
  rfl

@[simp] theorem applied?_applyQueued : registry.applyQueued.applied? name = registry.latest? name := rfl

@[simp] theorem latest?_applyQueued : registry.applyQueued.latest? name = registry.latest? name :=
  latest?_of_queued_eq_nil rfl

theorem latest?_enqueue (report : HealthReport) :
    (registry.enqueue report).latest? name =
      if name = report.component then some report.status else registry.latest? name := by
  simp only [latest?, applied?, applyQueued, enqueue, List.foldl_append, List.foldl_cons, List.foldl_nil]
  exact lookup_insert report _ name

/-- What is true of every report of a component is true of the last one. -/
theorem of_latest? {P : HealthStatus → Prop} (happlied : ∀ status, registry.applied? name = some status → P status)
    (hqueued : ∀ report ∈ registry.queued, report.component = name → P report.status) (status : HealthStatus)
    (h : registry.latest? name = some status) : P status := by
  obtain ⟨components, queued⟩ := registry
  simp only [latest?, applied?, applyQueued] at h happlied
  induction queued generalizing components with
  | nil => exact happlied status h
  | cons report queued ih =>
    obtain ⟨hfirst, hlater⟩ := List.forall_mem_cons.1 hqueued
    refine ih (insert report components) (fun status' hstatus' => ?_) hlater h
    rw [lookup_insert] at hstatus'
    split at hstatus'
    next hname => exact Option.some.inj hstatus' ▸ hfirst hname.symm
    next => exact happlied status' hstatus'

end HealthRegistry

end JobQueue
