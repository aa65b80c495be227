import JobQueue.Consumer
import JobQueue.Proofs.Job.Envelope
import JobQueue.Proofs.Queue.Effects
import JobQueue.Proofs.Validation

/-! The way of a delivery through its gates. It asks the dedup gate once, hands at most one request to
processing, and only after it got through; the outcome tells how far it came. -/

namespace JobQueue

open Time (Duration)

def Effect.isProcess : Effect → Bool
  | .process _ => true
  | _ => false

/-- What a delivery does on the side. -/
inductive Effect.IsAside (config : QueueConfig) : Effect → Prop where
  | count (metric : Metric) : IsAside config (.count metric)
  | clock : IsAside config .clock
  | publish (channel message : String) : IsAside config (.command .jobs (.publish channel message))
  | record (entry : String) :
      IsAside config (.command .deadLetters (.rpush config.deadLetterKey entry))

/-- Neither sets a value nor hands anything to processing, and takes nothing off a list. -/
theorem Effect.IsAside.spares {config : QueueConfig} {e : Effect} (h : e.IsAside config) :
    e.isSet = false ∧ e.isProcess = false ∧ ∀ key, e.takesFrom key = false := by
  cases h <;> exact ⟨rfl, rfl, fun _ => rfl⟩

/-- The request of a job names the job. -/
theorem Validation.validate_jobId {maxLength : Nat} {job : Job} {request : JobRequest}
    (h : validate maxLength job = .ok request) : request.jobId = job.id :=
  (validate_ok_iff.1 h).names

theorem DeadLetterLog.recordFailure_each (config : QueueConfig) (queueName : String) (job : Job)
    (reason : String) : (recordFailure config queueName job reason).Each (Effect.IsAside config) :=
  ⟨.clock, fun reading => (Program.each_ofExcept (Clock.recordTime reading)).bind fun _ =>
    ⟨.record _, fun _ => trivial⟩⟩

namespace Consumer

variable (consumer : Consumer) (job : Job)

/-- To ask the dedup gate. -/
abbrev asks : Effect :=
  .command .jobs (.set (Dedup.key job.id) Dedup.mark (Dedup.windowSeconds consumer.window))

/-- What follows on the answer of the dedup gate. -/
def proceed : Except StoreError Bool → Program Outcome
  | .error error => do
    consumer.count .failed
    return .failure (.store error)
  | .ok false => do
    consumer.count .skipped
    return .skipped
  | .ok true =>
    match Validation.validate consumer.maxQueryLength job with
    | .error error => consumer.reject job error
    | .ok request => consumer.process job request

theorem handle_eq : consumer.handle job =
    .step (.count (.job .delivered consumer.queue.name)) fun _ =>
      .step (consumer.asks job) (consumer.proceed job) := by
  refine congrArg (Program.step _) (funext fun _ => congrArg (Program.step _) (funext fun r => ?_))
  obtain error | _ | _ := r <;> rfl

/-! ### On the side -/

theorem count_each (kind : JobMetric) : (consumer.count kind).Each (Effect.IsAside consumer.queue) :=
  ⟨.count _, fun _ => trivial⟩

theorem deadLetter_each (reason : String) :
    (consumer.deadLetter job reason).Each (Effect.IsAside consumer.queue) := by
  refine (DeadLetterLog.recordFailure_each consumer.queue consumer.queue.name job reason).bind fun r => ?_
  cases r with
  | ok => trivial
  | error => exact consumer.count_each .unrecorded

theorem publishRejection_each (error : ValidationError) :
    (consumer.publishRejection job error).Each (Effect.IsAside consumer.queue) := by
  refine ⟨.publish _ _, fun r => ?_⟩
  cases r with
  | ok => trivial
  | error => exact consumer.count_each .unpublished

theorem reject_each (error : ValidationError) : (consumer.reject job error).Each (Effect.IsAside consumer.queue) :=
  (consumer.publishRejection_each job error).bind fun _ =>
    (consumer.deadLetter_each job error.error).bind fun _ =>
      (consumer.count_each .rejected).bind fun _ => trivial

theorem proceed_each {r : Except StoreError Bool} (hr : r ≠ .ok true) :
    (consumer.proceed job r).Each (Effect.IsAside consumer.queue) := by
  obtain error | _ | _ := r
  · exact (consumer.count_each .failed).bind fun _ => trivial
  · exact (consumer.count_each .skipped).bind fun _ => trivial
  · exact absurd rfl hr

/-- What follows on the answer of the processing service. -/
def conclude : Except ProcessingError Unit → Program Outcome
  | .ok () => do
    consumer.count .processed
    consumer.count .completed
    return .success
  | .error error => do
    consumer.count .processed
    consumer.deadLetter job error.message
    consumer.count .failed
    return .failure (.processing error)

theorem process_eq (request : JobRequest) :
    consumer.process job request = .step (.process request) (consumer.conclude job) := by
  refine congrArg (Program.step _) (funext fun r => ?_)
  obtain error | _ := r <;> rfl

variable {job} in
theorem proceed_of_invalid {error : ValidationError}
    (h : Validation.validate consumer.maxQueryLength job = .error error) :
    consumer.proceed job (.ok true) = consumer.reject job error := by
  rw [proceed, h]

variable {job} in
theorem proceed_of_valid {request : JobRequest}
    (h : Validation.validate consumer.maxQueryLength job = .ok request) :
    consumer.proceed job (.ok true) = .step (.process request) (consumer.conclude job) := by
  rw [proceed, h]
  exact consumer.process_eq job request

theorem conclude_each (r : Except ProcessingError Unit) :
    (consumer.conclude job r).Each (Effect.IsAside consumer.queue) := by
  cases r with
  | ok _ =>
    exact (consumer.count_each .processed).bind fun _ =>
      (consumer.count_each .completed).bind fun _ => trivial
  | error error =>
    exact (consumer.count_each .processed).bind fun _ =>
      (consumer.deadLetter_each job error.message).bind fun _ =>
        (consumer.count_each .failed).bind fun _ => trivial

theorem proceed_gives_error (error : StoreError) :
    (consumer.proceed job (.error error)).Gives (· = .failure (.store error)) := by
  refine Program.Gives.bind (fun _ => ?_) (consumer.count .failed)
  rfl

theorem proceed_gives_skipped : (consumer.proceed job (.ok false)).Gives (· = .skipped) := by
  refine Program.Gives.bind (fun _ => ?_) (consumer.count .skipped)
  rfl

theorem reject_gives (error : ValidationError) :
    (consumer.reject job error).Gives (· = .failure (.validation error)) := by
  refine Program.Gives.bind (fun _ => ?_) (consumer.publishRejection job error)
  refine Program.Gives.bind (fun _ => ?_) (consumer.deadLetter job error.error)
  refine Program.Gives.bind (fun _ => ?_) (consumer.count .rejected)
  rfl

theorem conclude_gives (r : Except ProcessingError Unit) : (consumer.conclude job r).Gives fun outcome =>
    outcome = match r with
      | .ok _ => .success
      | .error error => .failure (.processing error) := by
  cases r with
  | ok _ =>
    refine Program.Gives.bind (fun _ => ?_) (consumer.count .processed)
    refine Program.Gives.bind (fun _ => ?_) (consumer.count .completed)
    rfl
  | error error =>
    refine Program.Gives.bind (fun _ => ?_) (consumer.count .processed)
    refine Program.Gives.bind (fun _ => ?_) (consumer.deadLetter job error.message)
    refine Program.Gives.bind (fun _ => ?_) (consumer.count .failed)
    rfl

/-- A delivery asks the gate, hands a request to processing, and is else only on the side. -/
theorem handle_each {P : Effect → Prop} (haside : ∀ e : Effect, e.IsAside consumer.queue → P e)
    (hasks : P (consumer.asks job)) (hprocess : ∀ request, P (.process request)) :
    (consumer.handle job).Each P := by
  rw [handle_eq]
  refine ⟨haside _ (.count _), fun _ => ⟨hasks, fun r => ?_⟩⟩
  by_cases hr : r = .ok true
  · rw [hr]
    cases hvalid : Validation.validate consumer.maxQueryLength job with
    | error error =>
      rw [proceed_of_invalid _ hvalid]
      exact (consumer.reject_each job error).mono haside
    | ok request =>
      rw [proceed_of_valid _ hvalid]
      exact ⟨hprocess request, fun a => (consumer.conclude_each job a).mono haside⟩
  · exact (consumer.proceed_each job hr).mono haside

/-- A delivery sets no value but a record of the dedup gate. -/
theorem handle_guards : (consumer.handle job).Each (Dedup.Guards consumer.window) :=
  consumer.handle_each job (fun _ h => .inl h.spares.1) (.inr ⟨job.id, rfl⟩) fun _ => .inl rfl

/-! ### The ways of a delivery -/

variable {consumer job} {deeds : List Deed} {q : Program Outcome}

/-- Before it asks the dedup gate, a delivery is only counted. -/
theorem handle_leads (h : (consumer.handle job).Leads deeds q) :
    ((∀ d ∈ deeds, d.e.IsAside consumer.queue) ∧ ∀ outcome, q ≠ .done outcome) ∨
      ∃ r first later, first.e.IsAside consumer.queue ∧
        deeds = later ++ [⟨consumer.asks job, r⟩, first] ∧ (consumer.proceed job r).Leads later q := by
  rw [handle_eq] at h
  obtain ⟨rfl, rfl⟩ | ⟨a, _, rfl, hlater⟩ := Program.leads_step h
  · exact .inl ⟨by simp, nofun⟩
  obtain ⟨rfl, rfl⟩ | ⟨r, later, rfl, hproceed⟩ := Program.leads_step hlater
  · exact .inl ⟨fun d hd => List.mem_singleton.1 hd ▸ .count _, nofun⟩
  · exact .inr ⟨r, ⟨_, a⟩, later, .count _, by simp, hproceed⟩

/-- Only a valid job that got through is handed to processing. -/
theorem proceed_leads {r : Except StoreError Bool} (h : (consumer.proceed job r).Leads deeds q) :
    (∀ d ∈ deeds, d.e.IsAside consumer.queue) ∨
      ∃ request a last, r = .ok true ∧
        Validation.validate consumer.maxQueryLength job = .ok request ∧
        deeds = last ++ [⟨.process request, a⟩] ∧ (∀ d ∈ last, d.e.IsAside consumer.queue) ∧
        (consumer.conclude job a).Leads last q := by
  by_cases hr : r = .ok true
  · rw [hr] at h
    cases hvalid : Validation.validate consumer.maxQueryLength job with
    | error error =>
      rw [proceed_of_invalid _ hvalid] at h
      exact .inl (h.each (consumer.reject_each job error)).2
    | ok request =>
      rw [proceed_of_valid _ hvalid] at h
      obtain ⟨rfl, -⟩ | ⟨a, last, rfl, hlast⟩ := Program.leads_step h
      · exact .inl (by simp)
      · have haside := (hlast.each (consumer.conclude_each job a)).2
        exact .inr ⟨request, a, last, hr, rfl, rfl, haside, hlast⟩
  · exact .inl (h.each (consumer.proceed_each job hr)).2

/-- A delivery goes by the one answer of the dedup gate. -/
theorem handle_asked {r : Except StoreError Bool} (h : (consumer.handle job).Leads deeds q)
    (hr : ⟨consumer.asks job, r⟩ ∈ deeds) :
    ∃ first later, first.e.IsAside consumer.queue ∧ deeds = later ++ [⟨consumer.asks job, r⟩, first] ∧
      (consumer.proceed job r).Leads later q := by
  have hasks : ∀ {d : Deed}, d.e.IsAside consumer.queue → d ≠ ⟨consumer.asks job, r⟩ := by
    rintro d haside rfl
    cases haside.spares.1
  obtain ⟨haside, -⟩ | ⟨r', first, later, hfirst, rfl, hproceed⟩ := handle_leads h
  · exact absurd rfl (hasks (haside _ hr))
  suffices heq : r = r' from ⟨first, later, hfirst, by rw [heq], heq ▸ hproceed⟩
  simp only [List.mem_append, List.mem_cons, List.not_mem_nil, or_false] at hr
  obtain hlater | hr | hr := hr
  · obtain haside | ⟨request, a, last, -, -, rfl, haside, -⟩ := proceed_leads hproceed
    · exact absurd rfl (hasks (haside _ hlater))
    · obtain hlast | hprocess := List.mem_append.1 hlater
      · exact absurd rfl (hasks (haside _ hlast))
      · cases List.mem_singleton.1 hprocess
  · cases hr
    rfl
  · exact absurd hr.symm (hasks hfirst)

/-- A delivery to which the gate gives an error fails, and nothing is handed to processing. -/
theorem handle_refused {error : StoreError} {outcome : Outcome}
    (h : (consumer.handle job).Leads deeds (.done outcome))
    (herror : ⟨consumer.asks job, .error error⟩ ∈ deeds) :
    outcome = .failure (.store error) ∧ ∀ d ∈ deeds, d.e.isProcess = false := by
  obtain ⟨first, later, hfirst, rfl, hproceed⟩ := handle_asked h herror
  refine ⟨hproceed.gives (consumer.proceed_gives_error job error), fun d hd => ?_⟩
  simp only [List.mem_append, List.mem_cons, List.not_mem_nil, or_false] at hd
  obtain hlater | rfl | rfl := hd
  · exact ((hproceed.each (consumer.proceed_each job nofun)).2 d hlater).spares.2.1
  · rfl
  · exact hfirst.spares.2.1

/-- A delivery whose job does not get through is skipped. -/
theorem handle_skipped {outcome : Outcome} (h : (consumer.handle job).Leads deeds (.done outcome))
    (hfalse : ⟨consumer.asks job, .ok false⟩ ∈ deeds) : outcome = .skipped := by
  obtain ⟨first, later, -, rfl, hproceed⟩ := handle_asked h hfalse
  exact hproceed.gives (consumer.proceed_gives_skipped job)

/-- What must have happened in a delivery for its outcome. -/
inductive Explains (consumer : Consumer) (job : Job) (deeds : List Deed) :
    Except StoreError Bool → Outcome → Prop where
  | refused (error) : Explains consumer job deeds (.error error) (.failure (.store error))
  | skipped : Explains consumer job deeds (.ok false) .skipped
  | rejected (error) (h : Validation.validate consumer.maxQueryLength job = .error error) :
      Explains consumer job deeds (.ok true) (.failure (.validation error))
  | succeeded (request) (hid : request.jobId = job.id) (h : ⟨.process request, .ok ()⟩ ∈ deeds) :
      Explains consumer job deeds (.ok true) .success
  | failed (request error) (hid : request.jobId = job.id)
      (h : ⟨.process request, .error error⟩ ∈ deeds) :
      Explains consumer job deeds (.ok true) (.failure (.processing error))

/-- The outcome of a delivery follows from the answer of the dedup gate and from what was processed. -/
theorem handle_done {outcome : Outcome} (h : (consumer.handle job).Leads deeds (.done outcome)) :
    ∃ r, ⟨consumer.asks job, r⟩ ∈ deeds ∧ Explains consumer job deeds r outcome := by
  obtain ⟨-, hnever⟩ | ⟨r, first, later, -, rfl, hproceed⟩ := handle_leads h
  · exact absurd rfl (hnever outcome)
  refine ⟨r, by simp, ?_⟩
  obtain error | _ | _ := r
  · obtain rfl := hproceed.gives (consumer.proceed_gives_error job error)
    exact .refused error
  · obtain rfl := hproceed.gives (consumer.proceed_gives_skipped job)
    exact .skipped
  · cases hvalid : Validation.validate consumer.maxQueryLength job with
    | error error =>
      rw [proceed_of_invalid _ hvalid] at hproceed
      obtain rfl := hproceed.gives (consumer.reject_gives job error)
      exact .rejected error hvalid
    | ok request =>
      rw [proceed_of_valid _ hvalid] at hproceed
      obtain ⟨a, last, rfl, hlast⟩ := Program.leads_step_done hproceed
      have hrequest := Validation.validate_jobId hvalid
      obtain rfl := hlast.gives (consumer.conclude_gives job a)
      obtain error | _ := a
      · exact .failed request error hrequest (by simp)
      · exact .succeeded request hrequest (by simp)

/-! ### Once in a delivery -/

/-- A request for a job was handed to processing. -/
def processes (id : String) : Deed → Bool
  | ⟨.process request, _⟩ => request.jobId == id
  | _ => false

theorem not_processes_of_isAside {id : String} {d : Deed} (h : d.e.IsAside consumer.queue) :
    processes id d = false := by
  unfold processes
  split
  next => cases h.spares.2.1
  next => rfl

theorem not_admits_of_isAside {id : String} {d : Deed} (h : d.e.IsAside consumer.queue) :
    Dedup.admits id d = false :=
  Dedup.admits_eq_false h.spares.1

theorem countP_of_aside {p : Deed → Bool} (hp : ∀ d, d.e.IsAside consumer.queue → p d = false)
    (h : ∀ d ∈ deeds, d.e.IsAside consumer.queue) : deeds.countP p = 0 :=
  List.countP_eq_zero.2 fun d hd => by simp [hp d (h d hd)]

/-- A delivery gets through once at most, and is only then handed to processing. -/
theorem handle_once (h : (consumer.handle job).Leads deeds q) (id : String) :
    deeds.countP (processes id) ≤ deeds.countP (Dedup.admits id) ∧
      deeds.countP (Dedup.admits id) ≤ 1 := by
  have hprocesses : ∀ ds : List Deed, (∀ d ∈ ds, d.e.IsAside consumer.queue) →
      ds.countP (processes id) = 0 := fun _ => countP_of_aside fun _ => not_processes_of_isAside
  have hadmits : ∀ ds : List Deed, (∀ d ∈ ds, d.e.IsAside consumer.queue) →
      ds.countP (Dedup.admits id) = 0 := fun _ => countP_of_aside fun _ => not_admits_of_isAside
  obtain ⟨haside, -⟩ | ⟨r, first, later, hfirst, rfl, hproceed⟩ := handle_leads h
  · simp [hprocesses deeds haside, hadmits deeds haside]
  have hasks : processes id ⟨consumer.asks job, r⟩ = false := rfl
  simp only [List.countP_append, List.countP_cons, List.countP_nil, not_processes_of_isAside hfirst,
    not_admits_of_isAside hfirst, hasks, Bool.false_eq_true, if_false]
  obtain haside | ⟨request, a, last, rfl, hvalid, rfl, haside, -⟩ := proceed_leads hproceed
  · rw [hprocesses later haside, hadmits later haside]
    split <;> simp
  · have hrequest := Validation.validate_jobId hvalid
    rw [List.countP_append, List.countP_append, hprocesses last haside, hadmits last haside]
    by_cases hid : job.id = id
    · simp [processes, Dedup.admits, hrequest, hid]
    · simp [processes, Dedup.admits, Dedup.key_eq_iff, hrequest, hid]

end Consumer

end JobQueue
