import JobQueue.Proofs.Consumer.Gates
import JobQueue.Proofs.Queue.Alone

/-! The order of what a delivery does, and what its outcome depends on. The dedup gate comes first; a job
that got through is either rejected, with a message and a dead letter, or processed, with a dead letter
only for a failure. Whether the message and the dead letter arrive changes nothing. -/

namespace JobQueue

/-! ### Courses of programs -/

/-- A deed, unless it only counts. -/
def Deed.shown (d : Deed) : List Deed :=
  match d.e with
  | .count _ => []
  | _ => [d]

/-- Some deeds without the counts, in the order in which they were done. -/
def course (deeds : List Deed) : List Deed :=
  deeds.reverse.flatMap Deed.shown

theorem course_cons (d : Deed) (deeds : List Deed) : course (d :: deeds) = course deeds ++ d.shown := by
  simp [course]

theorem Deed.mem_of_mem_shown {d d' : Deed} (h : d' ∈ d.shown) : d' = d := by
  unfold Deed.shown at h
  split at h
  · cases h
  · exact List.mem_singleton.1 h

theorem mem_of_mem_course {d : Deed} {deeds : List Deed} (h : d ∈ course deeds) : d ∈ deeds := by
  obtain ⟨d', hmem, hshown⟩ := List.mem_flatMap.1 h
  rw [Deed.mem_of_mem_shown hshown]
  exact List.mem_reverse.1 hmem

/-- The deeds that hand a request to processing. -/
def calls (deeds : List Deed) : List Deed :=
  deeds.filter (·.e.isProcess)

theorem mem_course {d : Deed} {deeds : List Deed} (h : d ∈ deeds) (hd : d ∈ d.shown) : d ∈ course deeds :=
  List.mem_flatMap.2 ⟨d, List.mem_reverse.2 h, hd⟩

theorem filter_shown {p : Deed → Bool} (hp : ∀ metric a, p ⟨.count metric, a⟩ = false) (d : Deed) :
    d.shown.filter p = [d].filter p := by
  obtain ⟨e, a⟩ := d
  cases e with
  | count metric => simp [Deed.shown, hp]
  | _ => rfl

/-- A course has the deeds of any kind that are not counts. -/
theorem filter_course {p : Deed → Bool} (hp : ∀ metric a, p ⟨.count metric, a⟩ = false)
    (deeds : List Deed) : (course deeds).filter p = (deeds.filter p).reverse := by
  induction deeds with
  | nil => rfl
  | cons d deeds ih =>
    rw [course_cons, List.filter_append, ih, filter_shown hp]
    cases hd : p d <;> simp [hd]

theorem calls_course (deeds : List Deed) : calls (course deeds) = (calls deeds).reverse :=
  filter_course (fun _ _ => rfl) deeds

/-- Every effect can be answered in some way. -/
def Effect.someAnswer : (e : Effect) → e.Answer
  | .command _ _ => .error .timeout
  | .clock => (0 : Int)
  | .process _ => .ok ()
  | .count _ => ()

namespace Program

variable {α β : Type} {S : List Deed → Except Panic α → Prop}

/-- Whatever the answers, the course of a program and its end belong together. -/
def Follows (S : List Deed → Except Panic α → Prop) : Program α → Prop
  | done a => S [] (.ok a)
  | panic p => S [] (.error p)
  | step e next => ∀ a, (next a).Follows fun later r => S (Deed.shown ⟨e, a⟩ ++ later) r

/-- One program after another: the course of the second one continues that of the first one. -/
theorem Follows.bind {p : Program α} {f : α → Program β} {T : List Deed → Except Panic β → Prop}
    (hp : p.Follows S) (hok : ∀ first a, S first (.ok a) → (f a).Follows fun later r => T (first ++ later) r)
    (herror : ∀ first panic, S first (.error panic) → T first (.error panic)) :
    (p.bind f).Follows T := by
  induction p generalizing S T with
  | done a => exact hok [] a hp
  | panic p => exact herror [] p hp
  | step e next ih =>
    intro a
    refine ih a (hp a) (fun first b hfirst => ?_) fun first panic => herror _ panic
    have hlater := hok _ b hfirst
    simp only [List.append_assoc] at hlater
    exact hlater

theorem Follows.exists_end {p : Program α} {S : List Deed → Except Panic α → Prop} (hp : p.Follows S) :
    ∃ whole r, S whole r := by
  induction p generalizing S with
  | done a => exact ⟨[], .ok a, hp⟩
  | panic p => exact ⟨[], .error p, hp⟩
  | step e next ih =>
    obtain ⟨later, r, hlater⟩ := ih e.someAnswer (hp e.someAnswer)
    exact ⟨_, r, hlater⟩

theorem Follows.rest {p q : Program α} {deeds : List Deed} (hp : p.Follows S) (h : p.Leads deeds q) :
    q.Follows fun later r => S (course deeds ++ later) r := by
  induction h with
  | refl => exact hp
  | step a _ ih =>
    have hnext := ih a
    simpa only [course_cons, List.append_assoc] using hnext

/-- At any moment the deeds of a program are the start of a course that it can take. -/
theorem Follows.exists_course {p q : Program α} {deeds : List Deed} (hp : p.Follows S)
    (h : p.Leads deeds q) : ∃ whole r, S whole r ∧ course deeds <+: whole := by
  obtain ⟨later, r, hlater⟩ := (hp.rest h).exists_end
  exact ⟨_, r, hlater, List.prefix_append ..⟩

theorem Follows.course_of_end {p : Program α} {deeds : List Deed} {r : Except Panic α} (hp : p.Follows S)
    (h : p.Leads deeds (.ofExcept r)) : S (course deeds) r := by
  have hrest := hp.rest h
  cases r with
  | ok a | error panic =>
    have hnil : S (course deeds ++ []) _ := hrest
    rwa [List.append_nil] at hnil

end Program

/-! ### Ways that differ in notices only -/

/-- To tell others of a failure: a message to a client, or an entry of a list. -/
def Effect.isNotice : Effect → Bool
  | .command _ (.publish _ _) => true
  | .command _ (.rpush _ _) => true
  | _ => false

/-- Two ways in which the same effect has the same answer, but for notices and readings of the clock. -/
def AgreeButForNotices (deeds deeds' : List Deed) : Prop :=
  ∀ d ∈ deeds, ∀ d' ∈ deeds', d.e = d'.e → d.e.isNotice = false → d.e ≠ .clock → d = d'

/-! ### The courses of a delivery -/

namespace Consumer

variable (consumer : Consumer) (job : Job)

/-- To tell the client of a job that it is rejected. -/
abbrev tells (error : ValidationError) : Effect :=
  .command .jobs (.publish consumer.queue.responseChannel
    (JobResponse.codec.text (.rejection job error)))

/-- To record a failure at some time. -/
abbrev records (reason : String) (nanos : Int) : Effect :=
  .command .deadLetters (.rpush consumer.queue.deadLetterKey
    (DeadLetterEntry.codec.text (.ofJob consumer.queue.name job reason (.ofEpochNanos nanos))))

/-- A failure is recorded with the time that the clock shows, if that time has a date. -/
inductive Recording (reason : String) : List Deed → Except Panic Unit → Prop where
  | recorded (reading nanos : Int) (written : Except StoreError Unit)
      (h : Clock.recordTime reading = .ok nanos) :
      Recording reason [⟨.clock, reading⟩, ⟨consumer.records job reason nanos, written⟩] (.ok ())
  | dateless (reading : Int) (panic : Panic) (h : Clock.recordTime reading = .error panic) :
      Recording reason [⟨.clock, reading⟩] (.error panic)

/-- What a delivery does in which order, with the answers, and its end. -/
inductive Course (verdict : Except ValidationError JobRequest) : List Deed → Except Panic Outcome → Prop where
  | refused (error : StoreError) :
      Course verdict [⟨consumer.asks job, .error error⟩] (.ok (.failure (.store error)))
  | skipped : Course verdict [⟨consumer.asks job, .ok false⟩] (.ok .skipped)
  | rejected (error : ValidationError) (told : Except StoreError Unit) {later r}
      (h : verdict = .error error) (hrecording : consumer.Recording job error.error later r) :
      Course verdict (⟨consumer.asks job, .ok true⟩ :: ⟨consumer.tells job error, told⟩ :: later)
        (r.map fun _ => .failure (.validation error))
  | succeeded (request : JobRequest) (h : verdict = .ok request) :
      Course verdict [⟨consumer.asks job, .ok true⟩, ⟨.process request, .ok ()⟩] (.ok .success)
  | failed (request : JobRequest) (error : ProcessingError) {later r} (h : verdict = .ok request)
      (hrecording : consumer.Recording job error.message later r) :
      Course verdict (⟨consumer.asks job, .ok true⟩ :: ⟨.process request, .error error⟩ :: later)
        (r.map fun _ => .failure (.processing error))

theorem publishRejection_follows (error : ValidationError) :
    (consumer.publishRejection job error).Follows fun first r =>
      (∃ told, first = [⟨consumer.tells job error, told⟩]) ∧ r = .ok () := by
  intro told
  cases told with
  | ok _ => exact ⟨⟨_, rfl⟩, rfl⟩
  | error _ => exact fun _ => ⟨⟨_, rfl⟩, rfl⟩

theorem deadLetter_follows (reason : String) :
    (consumer.deadLetter job reason).Follows (consumer.Recording job reason) := by
  intro reading
  cases hread : Clock.recordTime reading with
  | error panic =>
    simp only [hread]
    exact .dateless reading panic hread
  | ok nanos =>
    simp only [hread]
    intro written
    have hrecorded : consumer.Recording job reason _ _ := .recorded reading nanos written hread
    cases written with
    | ok _ => exact hrecorded
    | error _ => exact fun _ => hrecorded

/-- A delivery that ends with a count and an outcome after it has recorded a failure. -/
theorem recording_follows {reason : String} {outcome : Outcome} {T : List Deed → Except Panic Outcome → Prop}
    (kind : JobMetric) (h : ∀ later r, consumer.Recording job reason later r → T later (r.map fun _ => outcome)) :
    ((consumer.deadLetter job reason).bind fun _ =>
      (consumer.count kind).bind fun _ => .done outcome).Follows T := by
  refine (consumer.deadLetter_follows job reason).bind ?_ ?_
  · intro first _ hfirst _
    have hends : T first (.ok outcome) := h first _ hfirst
    rwa [← List.append_nil first] at hends
  · exact fun first panic hfirst => h first _ hfirst

/-- However a delivery is answered, it takes one of its courses. -/
theorem gates_follows (verdict : Except ValidationError JobRequest) :
    (consumer.gates job verdict).Follows (consumer.Course job verdict) := by
  intro _ admitted
  match admitted, verdict with
  | .error error, _ => exact fun _ => .refused error
  | .ok false, _ => exact fun _ => .skipped
  | .ok true, .error error =>
    refine (consumer.publishRejection_follows job error).bind ?_ nofun
    rintro _ _ ⟨⟨told, rfl⟩, -⟩
    exact consumer.recording_follows job .rejected fun later r h => .rejected error told rfl h
  | .ok true, .ok request =>
    intro result
    cases result with
    | ok _ => exact fun _ _ => .succeeded request rfl
    | error error =>
      intro _
      exact consumer.recording_follows job .failed fun later r h => .failed request error rfl h

/-! ### What the outcome depends on -/

/-- What is handed to processing, given the answer of the gate, and with which result. -/
def handedOn (verdict : Except ValidationError JobRequest) (admitted : Except StoreError Bool)
    (result : Except ProcessingError Unit) : List Deed :=
  match admitted, verdict with
  | .ok true, .ok request => [⟨.process request, result⟩]
  | _, _ => []

/-- The outcome, given the answer of the gate and the result of processing. -/
def upshot (verdict : Except ValidationError JobRequest) (admitted : Except StoreError Bool)
    (result : Except ProcessingError Unit) : Outcome :=
  match admitted, verdict, result with
  | .error error, _, _ => .failure (.store error)
  | .ok false, _, _ => .skipped
  | .ok true, .error error, _ => .failure (.validation error)
  | .ok true, .ok _, .ok _ => .success
  | .ok true, .ok _, .error error => .failure (.processing error)

variable {consumer job}

theorem Recording.calls_eq_nil {reason : String} {whole : List Deed} {r : Except Panic Unit}
    (h : consumer.Recording job reason whole r) : calls whole = [] := by
  cases h <;> rfl

theorem eq_of_map_eq_ok {r : Except Panic Unit} {ending outcome : Outcome}
    (h : (r.map fun _ => ending) = .ok outcome) : outcome = ending := by
  cases r with
  | ok _ => exact (Except.ok.inj h).symm
  | error _ => cases h

/-- The gate answers in every course, and its answer and the result of processing settle the rest. -/
theorem Course.exists_answers {verdict : Except ValidationError JobRequest} {whole : List Deed}
    {r : Except Panic Outcome} (h : consumer.Course job verdict whole r) :
    ∃ admitted result, ⟨consumer.asks job, admitted⟩ ∈ whole ∧
      calls whole = handedOn verdict admitted result ∧
      ∀ outcome, r = .ok outcome → outcome = upshot verdict admitted result := by
  cases h with
  | refused error => exact ⟨.error error, .ok (), by simp, rfl, fun _ h => (Except.ok.inj h).symm⟩
  | skipped => exact ⟨.ok false, .ok (), by simp, rfl, fun _ h => (Except.ok.inj h).symm⟩
  | rejected error told h hrecording =>
    refine ⟨.ok true, .ok (), by simp, ?_, fun outcome houtcome => ?_⟩
    · rw [h]
      exact hrecording.calls_eq_nil
    · rw [h, eq_of_map_eq_ok houtcome]
      rfl
  | succeeded request h =>
    refine ⟨.ok true, .ok (), by simp, ?_, fun outcome houtcome => ?_⟩
    · rw [h]
      rfl
    · rw [h, ← Except.ok.inj houtcome]
      rfl
  | failed request error h hrecording =>
    refine ⟨.ok true, .error error, by simp, ?_, fun outcome houtcome => ?_⟩
    · rw [h]
      exact congrArg (⟨.process request, .error error⟩ :: ·) hrecording.calls_eq_nil
    · rw [h, eq_of_map_eq_ok houtcome]
      rfl

/-- Two courses that differ in the answers to notices only hand on the same and have the same outcome. -/
theorem Course.eq_of_agree {verdict : Except ValidationError JobRequest} {whole whole' : List Deed}
    {r r' : Except Panic Outcome} (h : consumer.Course job verdict whole r)
    (h' : consumer.Course job verdict whole' r') (hagree : AgreeButForNotices whole whole') :
    calls whole = calls whole' ∧
      ∀ outcome outcome', r = .ok outcome → r' = .ok outcome' → outcome = outcome' := by
  obtain ⟨admitted, result, hasked, hcalls, hupshot⟩ := h.exists_answers
  obtain ⟨admitted', result', hasked', hcalls', hupshot'⟩ := h'.exists_answers
  obtain rfl : admitted = admitted' := by
    cases hagree _ hasked _ hasked' rfl rfl nofun
    rfl
  suffices hsame : handedOn verdict admitted result = handedOn verdict admitted result' ∧
      upshot verdict admitted result = upshot verdict admitted result' by
    refine ⟨by rw [hcalls, hcalls', hsame.1], fun outcome outcome' ho ho' => ?_⟩
    rw [hupshot outcome ho, hupshot' outcome' ho', hsame.2]
  match admitted, verdict with
  | .error _, _ | .ok false, _ | .ok true, .error _ => exact ⟨rfl, rfl⟩
  | .ok true, .ok request =>
    -- Both hand on the request, so its result is the same in both.
    have hmem : ∀ {result whole}, calls whole = [⟨.process request, result⟩] →
        (⟨.process request, result⟩ : Deed) ∈ whole := fun hcalls =>
      (List.mem_filter.1 (hcalls ▸ List.mem_singleton_self _)).1
    cases hagree _ (hmem hcalls) _ (hmem hcalls') rfl rfl nofun
    exact ⟨rfl, rfl⟩

/-- However a delivery is answered, it asks the gate, and then it either ends, or tells and records that the
job is rejected, or hands it on and records only that this failed. Whether what it tells and records
arrives changes neither what it hands on nor its outcome. -/
theorem gates_in_order (consumer : Consumer) (job : Job) (verdict : Except ValidationError JobRequest) :
    (∀ deeds q, (consumer.gates job verdict).Leads deeds q →
      (∃ whole r, consumer.Course job verdict whole r ∧ course deeds <+: whole) ∧
      ∀ r, q = .ofExcept r → consumer.Course job verdict (course deeds) r) ∧
    ∀ deeds deeds' r r', (consumer.gates job verdict).Leads deeds (.ofExcept r) →
      (consumer.gates job verdict).Leads deeds' (.ofExcept r') → AgreeButForNotices deeds deeds' →
      calls deeds = calls deeds' ∧
        ∀ outcome outcome', r = .ok outcome → r' = .ok outcome' → outcome = outcome' := by
  have hfollows := consumer.gates_follows job verdict
  refine ⟨fun deeds q h => ⟨hfollows.exists_course h, ?_⟩, fun deeds deeds' r r' h h' hagree => ?_⟩
  · rintro r rfl
    exact hfollows.course_of_end h
  · have hcourse := hfollows.course_of_end h
    have hcourse' := hfollows.course_of_end h'
    have hagree' : AgreeButForNotices (course deeds) (course deeds') := fun d hd d' hd' =>
      hagree d (mem_of_mem_course hd) d' (mem_of_mem_course hd')
    obtain ⟨hcalls, houtcome⟩ := hcourse.eq_of_agree hcourse' hagree'
    rw [calls_course, calls_course] at hcalls
    exact ⟨List.reverse_inj.1 hcalls, houtcome⟩

/-- A job is not processed. One delivery of it can record this and another one cannot, and both fail. -/
theorem sample_record_lost :
    let consumer : Consumer := ⟨.sample, .ofSeconds 60, Validation.defaultMaxQueryLength⟩
    let request : JobRequest := ⟨"j1", "c1", "lean"⟩
    let record := consumer.records .sample "overloaded" 0
    let counts (kind : JobMetric) : Deed := ⟨.count (.job kind consumer.queue.name), ()⟩
    let first : List Deed := [⟨.clock, (0 : Int)⟩, counts .processed,
      ⟨.process request, .error ⟨"overloaded"⟩⟩, ⟨consumer.asks .sample, .ok true⟩, counts .delivered]
    let kept := counts .failed :: ⟨record, .ok ()⟩ :: first
    let lost := counts .failed :: counts .unrecorded :: ⟨record, .error .timeout⟩ :: first
    ∃ outcome outcome', (consumer.gates .sample (.ok request)).Leads kept (.done outcome) ∧
      (consumer.gates .sample (.ok request)).Leads lost (.done outcome') ∧
      AgreeButForNotices kept lost ∧ calls kept = calls lost ∧ outcome = outcome' := by
  intro consumer request record counts first kept lost
  let admitted : Except StoreError Bool := .ok true
  let failed : Except ProcessingError Unit := .error ⟨"overloaded"⟩
  let recorded (r : Except StoreError Unit) := r
  have hstart : (consumer.gates .sample (.ok request)).Leads [] _ := .refl
  have hasked := (hstart.step ()).step admitted
  have hfirst := ((hasked.step failed).step ()).step (0 : Int)
  have hkept := (hfirst.step (recorded (.ok ()))).step ()
  have hlost := ((hfirst.step (recorded (.error .timeout))).step ()).step ()
  have hagree : AgreeButForNotices kept lost := by
    simp [AgreeButForNotices, kept, lost, first, counts, record, Effect.isNotice]
  obtain ⟨hcalls, houtcome⟩ :=
    (gates_in_order consumer .sample (.ok request)).2 _ _ (.ok _) (.ok _) hkept hlost hagree
  exact ⟨_, _, hkept, hlost, hagree, hcalls, houtcome _ _ rfl rfl⟩

end Consumer

end JobQueue
