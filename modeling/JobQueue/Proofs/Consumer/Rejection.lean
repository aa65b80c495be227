import JobQueue.Proofs.Consumer.Order
import JobQueue.Proofs.Job.ReadBack
import JobQueue.Proofs.Validation

/-! Who is told of a rejection. Whatever is published for a job that is rejected is one response, for the client
that the data names. That need not be the client that a request from the same data would be for: validation
takes the blanks off the ends of a name, and no name for one that is blank, and the response has the name as it
is. -/

namespace JobQueue

open Json Validation

/-! ### Clients -/

/-- A job with the data of another one, but for the query and for the job that the data names. -/
structure Job.Repairs (repaired job : Job) : Prop where
  id : repaired.id = job.id
  same : ∀ name, name ≠ "query" → name ≠ "jobId" → repaired.data.get? name = job.data.get? name

/-- The request of a job would be for this client if the rest of its data were valid. -/
def Job.NamesClient (job : Job) (client : String) : Prop :=
  ∃ maxLength repaired request, Job.Repairs repaired job ∧
    validate maxLength repaired = .ok request ∧ request.clientId = client

/-- A response is for the client that the request of a job would be for, and for no one if there is no such
client. -/
structure JobResponse.Addresses (response : JobResponse) (job : Job) : Prop where
  named : ∀ client, job.NamesClient client → response.clientId = some client
  absent : (∀ client, ¬ job.NamesClient client) → response.clientId = none

variable {job : Job} {maxLength : Nat} {client s : String} {error : ValidationError}

/-- The job with a query that is valid, and with its own id. -/
def Job.withQuery (job : Job) (members : List (String × Json)) : Job :=
  { job with data := .object (insertMember "jobId" (.string job.id) (insertMember "query" (.string "q") members)) }

theorem Job.withQuery_repairs {members : List (String × Json)} (h : job.data = .object members) :
    (job.withQuery members).Repairs job where
  id := rfl
  same := by
    intro name hquery hjobId
    simp [withQuery, h, get?, lookup_insertMember, hquery, hjobId]

theorem Job.withQuery_wellFormed {members : List (String × Json)} (h : job.data = .object members)
    (hmost : 1 ≤ maxLength) (hclient : Carries job.data "clientId" client) (hne : client ≠ "") :
    WellFormed maxLength (job.withQuery members).id (job.withQuery members).data ⟨job.id, "q", client⟩ where
  isObject := ⟨_, rfl⟩
  query := by
    refine ⟨"q", by simp [withQuery, get?, lookup_insertMember], Text.trim_eq_iff.1 ?_⟩
    rfl
  length := by
    show 1 ≤ "q".length ∧ "q".length ≤ maxLength
    exact ⟨by decide, hmost⟩
  client := by
    rcases hclient with ⟨s, hs, hcore⟩
    exact ⟨s, ((withQuery_repairs h).same _ (by decide) (by decide)).trans hs, hcore⟩
  client_ne := hne
  job := by simp [withQuery, get?, lookup_insertMember]
  names := rfl

/-- Whatever length a query may have, a job that carries a client has a valid one once it is repaired. -/
theorem Job.exists_repaired (hmost : 1 ≤ maxLength) (hclient : Carries job.data "clientId" client)
    (hne : client ≠ "") : ∃ repaired request, Job.Repairs repaired job ∧
      validate maxLength repaired = .ok request ∧ request.clientId = client := by
  cases hdata : job.data with
  | object members =>
    have hvalid := validate_ok_iff.2 (withQuery_wellFormed hdata hmost hclient hne)
    exact ⟨_, _, withQuery_repairs hdata, hvalid, rfl⟩
  | _ =>
    rcases hclient with ⟨s, hs, -⟩
    simp [hdata, get?] at hs

/-- The client of a job is what its data carries, unless that is blank. -/
theorem Job.namesClient_iff : job.NamesClient client ↔ Carries job.data "clientId" client ∧ client ≠ "" := by
  constructor
  · rintro ⟨maxLength, repaired, request, hrepairs, hvalid, rfl⟩
    have hformed := validate_ok_iff.1 hvalid
    rcases hformed.client with ⟨s, hs, hcore⟩
    rw [hrepairs.same _ (by decide) (by decide)] at hs
    exact ⟨⟨s, hs, hcore⟩, hformed.client_ne⟩
  · rintro ⟨hclient, hne⟩
    exact ⟨1, exists_repaired (Nat.le_refl 1) hclient hne⟩

/-- Of a text that names a client, validation takes the part between the blanks. -/
theorem Job.namesClient_iff_of_text (h : job.data.get? "clientId" = some (.string s)) :
    job.NamesClient client ↔ client = Text.trim s ∧ Text.trim s ≠ "" := by
  rw [namesClient_iff]
  constructor
  · rintro ⟨hclient, hne⟩
    obtain rfl := hclient.eq (carries_trim h)
    exact ⟨rfl, hne⟩
  · rintro ⟨rfl, hne⟩
    exact ⟨carries_trim h, hne⟩

theorem Job.clientId?_of_text (h : job.data.get? "clientId" = some (.string s)) : job.clientId? = some s := by
  rw [clientId?, h]
  rfl

theorem Job.clientId?_of_not_text (h : ∀ s, job.data.get? "clientId" ≠ some (.string s)) :
    job.clientId? = none := by
  unfold clientId?
  rcases hget : job.data.get? "clientId" with _ | value
  · rfl
  · cases value with
    | string s => exact absurd hget (h s)
    | _ => rfl

/-- A rejection is for the right client if and only if the name of the client, where there is one, is neither
blank nor has blanks at its ends. -/
theorem JobResponse.rejection_addresses_iff : (rejection job error).Addresses job ↔
    ∀ s, job.data.get? "clientId" = some (.string s) → s ≠ "" ∧ Text.IsBare s := by
  constructor
  · intro h s hs
    have hclient : (rejection job error).clientId = some s := Job.clientId?_of_text hs
    have hne : Text.trim s ≠ "" := by
      intro hblank
      have hnone := h.absent fun client hnames => ((Job.namesClient_iff_of_text hs).1 hnames).2 hblank
      rw [hclient] at hnone
      cases hnone
    have hself := h.named (Text.trim s) ((Job.namesClient_iff_of_text hs).2 ⟨rfl, hne⟩)
    rw [hclient, Option.some_inj] at hself
    rw [hself]
    exact ⟨hne, Text.isBare_trim s⟩
  · intro h
    by_cases htext : ∃ s, job.data.get? "clientId" = some (.string s)
    · rcases htext with ⟨s, hs⟩
      have hself : Text.trim s = s := Text.trim_eq_self_iff.2 (h s hs).2
      have hnames : ∀ client, job.NamesClient client ↔ client = s := by
        intro client
        rw [Job.namesClient_iff_of_text hs, hself]
        simp [(h s hs).1]
      have hclient : (rejection job error).clientId = some s := Job.clientId?_of_text hs
      refine ⟨fun client hclient' => ?_, fun hnone => ?_⟩
      · rw [hclient, (hnames client).1 hclient']
      · exact absurd ((hnames s).2 rfl) (hnone s)
    · have hnone : (rejection job error).clientId = none :=
        Job.clientId?_of_not_text fun s hs => htext ⟨s, hs⟩
      refine ⟨fun client hnames => ?_, fun _ => hnone⟩
      rcases (Job.namesClient_iff.1 hnames).1 with ⟨s, hs, -⟩
      exact absurd ⟨s, hs⟩ htext

/-! ### What is published -/

namespace Consumer

variable {consumer : Consumer}

theorem Recording.not_publishes {reason : String} {later : List Deed} {r : Except Panic Unit}
    (h : consumer.Recording job reason later r) :
    ∀ site channel message told, ⟨.command site (.publish channel message), told⟩ ∉ later := by
  cases h <;> simp

/-- In a course of a job that is rejected, its client is told of that, and no one of anything else. -/
theorem Course.publishes {whole : List Deed} {r : Except Panic Outcome}
    (h : consumer.Course job (.error error) whole r) :
    (∀ site channel message told, ⟨.command site (.publish channel message), told⟩ ∈ whole →
      Effect.command site (.publish channel message) = consumer.tells job error) ∧
    (⟨consumer.asks job, .ok true⟩ ∈ whole → ∃ told, ⟨consumer.tells job error, told⟩ ∈ whole) := by
  cases h with
  | refused | skipped => simp
  | succeeded _ h | failed _ _ h => cases h
  | rejected error' told h hrecording =>
    cases h
    refine ⟨fun site channel message told' hmem => ?_, fun _ => ⟨told, by simp⟩⟩
    rcases List.mem_cons.1 hmem with hasks | hmem
    · cases hasks
    · rcases List.mem_cons.1 hmem with htells | hlater
      · cases htells
        rfl
      · exact absurd hlater (hrecording.not_publishes _ _ _ _)

/-- All that is published for a job that is rejected is the response that rejects it, and it is published
unless the job does not get through. It is for the client that a request from the same data would be for if and
only if the name that the data has for the client is neither blank nor has blanks at its ends. -/
theorem tells_client_iff (consumer : Consumer) (job : Job) (error : ValidationError)
    (hinvalid : validate consumer.maxQueryLength job = .error error) :
    (∀ deeds q, (consumer.handle job).Leads deeds q →
      (∀ site channel message told, ⟨.command site (.publish channel message), told⟩ ∈ deeds →
        site = .jobs ∧ channel = consumer.queue.responseChannel ∧
          JobResponse.codec.ofText message = .ok (.rejection job error)) ∧
      ∀ r, q = .ofExcept r → ⟨consumer.asks job, .ok true⟩ ∈ deeds →
        ∃ told, ⟨consumer.tells job error, told⟩ ∈ deeds) ∧
    ((JobResponse.rejection job error).Addresses job ↔
      ∀ s, job.data.get? "clientId" = some (.string s) → s ≠ "" ∧ Text.IsBare s) := by
  refine ⟨fun deeds q h => ?_, JobResponse.rejection_addresses_iff⟩
  have hfollows := consumer.gates_follows job (.error error)
  rw [handle, hinvalid] at h
  constructor
  · intro site channel message told hmem
    rcases hfollows.exists_course h with ⟨whole, r, hcourse, hstart⟩
    have hwhole := hstart.subset (mem_course hmem (List.mem_singleton_self _))
    cases hcourse.publishes.1 site channel message told hwhole
    exact ⟨rfl, rfl, (JobResponse.readsBack (nestingLimit - 2) _).ofText⟩
  · rintro r rfl hadmitted
    have hcourse := hfollows.course_of_end h
    rcases hcourse.publishes.2 (mem_course hadmitted (List.mem_singleton_self _)) with ⟨told, htold⟩
    exact ⟨told, mem_of_mem_course htold⟩

/-! ### Fixed inputs -/

/-- A job without a query, for the client that a text names. -/
def sampleWithoutQuery (client : String) : Job :=
  ⟨"j1", 1, .object [("clientId", .string client), ("query", .string "")]⟩

/-- Why it is rejected. -/
def sampleViolation : ValidationError :=
  Violation.queryEmpty.toError

/-- The client of a job without a query is told of the rejection. -/
theorem sample_client_told :
    let consumer : Consumer := ⟨.sample, .ofSeconds 60, defaultMaxQueryLength⟩
    let job := sampleWithoutQuery "c1"
    validate consumer.maxQueryLength job = .error sampleViolation ∧
      (JobResponse.rejection job sampleViolation).Addresses job ∧
      ∃ deeds, (consumer.handle job).Leads deeds (.done (.failure (.validation sampleViolation))) ∧
        ∃ told, ⟨consumer.tells job sampleViolation, told⟩ ∈ deeds := by
  intro consumer job
  have hinvalid : validate consumer.maxQueryLength job = .error sampleViolation := by rfl
  rcases consumer.tells_client_iff job sampleViolation hinvalid with ⟨hdeliveries, haddresses⟩
  have hbare : ∀ s, job.data.get? "clientId" = some (.string s) → s ≠ "" ∧ Text.IsBare s := by
    intro s hs
    cases hs
    exact ⟨by decide, Text.trim_eq_self_iff.1 rfl⟩
  have hstart : (consumer.gates job (.error sampleViolation)).Leads [] _ := .refl
  have hadmitted := (hstart.step ()).step (.ok true : Except StoreError Bool)
  have hrecorded := ((hadmitted.step (.ok () : Except StoreError Unit)).step (0 : Int)).step
    (.ok () : Except StoreError Unit)
  have hdone := hrecorded.step ()
  rw [← hinvalid, ← handle] at hdone
  have htold := (hdeliveries _ _ hdone).2 (.ok _) rfl (by simp)
  exact ⟨hinvalid, haddresses.2 hbare, _, hdone, htold⟩

/-- A name with blanks at its ends is published as it is, and so is a name that is blank. The request of the
first job would be for another client, and that of the second one for none. -/
theorem sample_rejection_astray :
    (validate defaultMaxQueryLength (sampleWithoutQuery " c1 ") = .error sampleViolation ∧
      (sampleWithoutQuery " c1 ").NamesClient "c1" ∧
      (JobResponse.rejection (sampleWithoutQuery " c1 ") sampleViolation).clientId = some " c1 ") ∧
    (validate defaultMaxQueryLength (sampleWithoutQuery " ") = .error sampleViolation ∧
      (∀ client, ¬ (sampleWithoutQuery " ").NamesClient client) ∧
      (JobResponse.rejection (sampleWithoutQuery " ") sampleViolation).clientId = some " ") := by
  have hnames : ∀ s client, (sampleWithoutQuery s).NamesClient client ↔ client = Text.trim s ∧ Text.trim s ≠ "" :=
    fun _ _ => Job.namesClient_iff_of_text rfl
  have htrim : Text.trim " c1 " = "c1" := by rfl
  have hblank : Text.trim " " = "" := by rfl
  refine ⟨⟨rfl, ?_, rfl⟩, rfl, fun client => ?_, rfl⟩
  · rw [hnames, htrim]
    decide
  · rw [hnames, hblank]
    simp

end Consumer

end JobQueue
