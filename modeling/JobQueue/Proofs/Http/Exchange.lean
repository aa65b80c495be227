import JobQueue.Http.Service
import JobQueue.Proofs.Consumer.Gates
import JobQueue.Proofs.Queue.Alone
import Mathlib.Tactic.SplitIfs

/-! The final response. A request goes out again and again while the answers to it redirect it, and the first
answer that does not counts. Its status refuses the request if it is one of a failure. With any other
status the request has been processed, whether or not the status says that it succeeded. -/

namespace JobQueue

namespace Http.ProcessingService

/-! ### What a status means -/

/-- A status that says that the request succeeded. -/
def Succeeds (status : Nat) : Prop := 200 ≤ status ∧ status < 300

/-- A status that says that the request or the service failed. -/
def Refuses (status : Nat) : Prop := 400 ≤ status ∧ status < 600

instance (status : Nat) : Decidable (Succeeds status) := inferInstanceAs (Decidable (_ ∧ _))

instance (status : Nat) : Decidable (Refuses status) := inferInstanceAs (Decidable (_ ∧ _))

/-- The failure that names a status. -/
def refusal (status : Nat) : ProcessingError :=
  ⟨"upstream responded with status " ++ String.ofList (Text.natDigits status)⟩

/-- What a final status would mean if a request had to succeed in order to count as processed. -/
def judgeStrictly (status : Nat) : Except ProcessingError Unit :=
  if Succeeds status then .ok () else .error (refusal status)

variable {status status' : Nat}

theorem judge_of_refuses (h : Refuses status) : judge status = .error (refusal status) := by
  have hrange : (400 ≤ status && status < 600) = true := by simpa [Refuses] using h
  exact if_pos hrange

theorem judge_of_not_refuses (h : ¬ Refuses status) : judge status = .ok () := by
  have hrange : ¬ (400 ≤ status && status < 600) = true := by simpa [Refuses] using h
  exact if_neg hrange

theorem judge_ok_iff : judge status = .ok () ↔ ¬ Refuses status := by
  refine ⟨fun h hrefuses => ?_, judge_of_not_refuses⟩
  rw [judge_of_refuses hrefuses] at h
  cases h

theorem judgeStrictly_of_succeeds (h : Succeeds status) : judgeStrictly status = .ok () :=
  if_pos h

theorem judgeStrictly_of_not_succeeds (h : ¬ Succeeds status) :
    judgeStrictly status = .error (refusal status) :=
  if_neg h

/-- The two agree on the statuses that are either of a success or of a failure. -/
theorem judge_eq_judgeStrictly_iff :
    judge status = judgeStrictly status ↔ Succeeds status ∨ Refuses status := by
  by_cases hrefuses : Refuses status
  · have hfails : ¬ Succeeds status := by
      simp only [Succeeds, Refuses] at hrefuses ⊢
      omega
    simp [judge_of_refuses hrefuses, judgeStrictly_of_not_succeeds hfails, hrefuses]
  · rw [judge_of_not_refuses hrefuses]
    by_cases hsucceeds : Succeeds status
    · simp [judgeStrictly_of_succeeds hsucceeds, hsucceeds]
    · simp [judgeStrictly_of_not_succeeds hsucceeds, hsucceeds, hrefuses]

/-! ### Redirections -/

/-- The request that the answer to the first of some requests asks for. -/
def redirection? (network : Network) : List SentRequest → Option SentRequest
  | [] => none
  | request :: earlier =>
    match network (request :: earlier) with
    | .response status (some url) =>
      if isRedirection status then some (request.redirected status url) else none
    | _ => none

/-- The requests that are sent while redirections are followed, the last of which comes first. -/
inductive Journey (network : Network) (first : SentRequest) : List SentRequest → Prop where
  | start : Journey network first [first]
  | redirected {request next earlier} (h : Journey network first (request :: earlier))
      (hsend : canSend request.url = true)
      (hnext : redirection? network (request :: earlier) = some next) :
      Journey network first (next :: request :: earlier)

/-- The status of the response that no redirection follows. -/
inductive EndsWith (network : Network) (first : SentRequest) : Nat → Prop where
  | answered {request earlier status location} (h : Journey network first (request :: earlier))
      (hlimit : earlier.length ≤ redirectionLimit) (hsend : canSend request.url = true)
      (hanswer : network (request :: earlier) = .response status location)
      (hfinal : redirection? network (request :: earlier) = none) : EndsWith network first status

variable {network : Network} {first request next : SentRequest} {earlier : List SentRequest} {left : Nat}

theorem exchange_of_redirection (hsend : canSend request.url = true)
    (hnext : redirection? network (request :: earlier) = some next) :
    exchange network (left + 1) earlier request = exchange network left (request :: earlier) next := by
  rw [exchange, if_pos hsend]
  unfold redirection? at hnext
  rcases hanswer : network (request :: earlier) with ⟨status, _ | url⟩ | _ | _ <;>
    simp only [hanswer, Option.ite_none_right_eq_some, Option.some_inj, reduceCtorEq] at hnext ⊢
  rw [if_pos hnext.1, hnext.2]

theorem exchange_of_final {location : Option Url} (hsend : canSend request.url = true)
    (hanswer : network (request :: earlier) = .response status location)
    (hfinal : redirection? network (request :: earlier) = none) :
    exchange network left earlier request = judge status := by
  unfold exchange
  rw [if_pos hsend]
  simp only [redirection?, hanswer] at hfinal ⊢
  rcases location with _ | url
  · rfl
  · have hstays : isRedirection status = false := by simpa using hfinal
    cases left <;> simp [hstays]

/-- A request counts as processed only if it has a response. It is the final one or redirects the request, and
then there are redirections left. -/
theorem exchange_ok (h : exchange network left earlier request = .ok ()) :
    canSend request.url = true ∧ ∃ status location,
      network (request :: earlier) = .response status location ∧
      (redirection? network (request :: earlier) = none ∨
        ∃ next fewer, redirection? network (request :: earlier) = some next ∧ left = fewer + 1) := by
  unfold exchange at h
  split_ifs at h with hsend
  refine ⟨hsend, ?_⟩
  simp only [redirection?]
  rcases hanswer : network (request :: earlier) with ⟨status, _ | url⟩ | _ | _ <;> rw [hanswer] at h
  · exact ⟨status, none, rfl, .inl rfl⟩
  · refine ⟨status, some url, rfl, ?_⟩
    by_cases hstatus : isRedirection status = true
    · rcases left with _ | fewer
      · simp [hstatus] at h
      · exact .inr ⟨_, fewer, if_pos hstatus, rfl⟩
    · exact .inl (if_neg hstatus)
  · cases h
  · cases h

namespace Journey

/-- Along a journey the exchange only goes on. -/
theorem exchange_eq (h : Journey network first (request :: earlier))
    (hlimit : earlier.length + left = redirectionLimit) :
    exchange network redirectionLimit [] first = exchange network left earlier request := by
  generalize hrequests : request :: earlier = requests at h
  induction h generalizing request earlier left with
  | start =>
    cases hrequests
    rw [← hlimit, List.length_nil, Nat.zero_add]
  | redirected _ hsend hnext ih =>
    cases hrequests
    rw [List.length_cons, Nat.succ_add_eq_add_succ] at hlimit
    rw [ih hlimit rfl]
    exact exchange_of_redirection hsend hnext

/-- An exchange that counts as processed goes on to a final response. -/
theorem exists_endsWith {request : SentRequest} {earlier : List SentRequest} {left : Nat}
    (h : Journey network first (request :: earlier))
    (hlimit : earlier.length + left = redirectionLimit)
    (hok : exchange network left earlier request = .ok ()) :
    ∃ status, EndsWith network first status ∧ ¬ Refuses status := by
  rcases exchange_ok hok with ⟨hsend, status, location, hanswer, hfinal | ⟨next, fewer, hnext, rfl⟩⟩
  · rw [exchange_of_final hsend hanswer hfinal] at hok
    exact ⟨status, .answered h (by omega) hsend hanswer hfinal, judge_ok_iff.1 hok⟩
  · -- One redirection is used up, so the recursion is on how many are left.
    rw [exchange_of_redirection hsend hnext] at hok
    refine (h.redirected hsend hnext).exists_endsWith ?_ hok
    rwa [List.length_cons, Nat.succ_add_eq_add_succ]
termination_by left

/-- There is one journey: each one that is as long as another one goes on from where that one has got. -/
theorem suffix {requests requests' : List SentRequest} (h : Journey network first requests)
    (h' : Journey network first requests') (hle : requests.length ≤ requests'.length) :
    requests <:+ requests' := by
  induction h' generalizing requests with
  | start =>
    cases h with
    | start => exact List.suffix_rfl
    | redirected => simp at hle
  | @redirected request next earlier h' _ hnext ih =>
    rcases Nat.lt_or_eq_of_le hle with hlt | heq
    · exact (ih h (Nat.le_of_lt_succ hlt)).trans (List.suffix_cons ..)
    · -- Both took their last step from the same requests, to which the network has one answer.
      cases h with
      | start => cases heq
      | redirected h _ hnext' =>
        have hlength := Nat.succ.inj heq
        have hsame := (ih h (Nat.le_of_eq hlength)).eq_of_length hlength
        cases hsame
        rw [hnext] at hnext'
        cases hnext'
        exact List.suffix_rfl

/-- A journey goes no further than to a request that nothing follows. -/
theorem length_le_of_final {requests requests' : List SentRequest} (h : Journey network first requests)
    (h' : Journey network first requests') (hfinal : redirection? network requests = none) :
    requests'.length ≤ requests.length := by
  refine Nat.le_of_not_lt fun hlonger => ?_
  induction h' generalizing requests with
  | start => cases h <;> simp at hlonger
  | redirected h' _ hnext ih =>
    have hle := Nat.le_of_lt_succ hlonger
    rcases Nat.lt_or_eq_of_le hle with hlt | heq
    · exact ih h hfinal hlt
    · rw [(h.suffix h' hle).eq_of_length heq, hnext] at hfinal
      cases hfinal

end Journey

/-- There is one final response at most. -/
theorem EndsWith.unique (h : EndsWith network first status) (h' : EndsWith network first status') :
    status = status' := by
  rcases h with ⟨h, _, _, hanswer, hfinal⟩
  rcases h' with ⟨h', _, _, hanswer', hfinal'⟩
  have hle := h'.length_le_of_final h hfinal'
  have hsame := (h.suffix h' hle).eq_of_length (Nat.le_antisymm hle (h.length_le_of_final h' hfinal))
  rw [hsame, hanswer'] at hanswer
  cases hanswer
  rfl

/-! ### Processing -/

theorem process_of_endsWith {service : ProcessingService} {request : JobRequest}
    (h : EndsWith network (service.sent request) status) : service.process network request = judge status := by
  rcases h with ⟨h, hlimit, hsend, hanswer, hfinal⟩
  show exchange network redirectionLimit [] (service.sent request) = judge status
  rw [h.exchange_eq (Nat.add_sub_cancel' hlimit)]
  exact exchange_of_final hsend hanswer hfinal

theorem process_ok_iff {service : ProcessingService} {request : JobRequest} :
    service.process network request = .ok () ↔
      ∃ status, EndsWith network (service.sent request) status ∧ ¬ Refuses status := by
  constructor
  · exact Journey.start.exists_endsWith (Nat.zero_add _)
  · rintro ⟨status, h, hstatus⟩
    rw [process_of_endsWith h, judge_of_not_refuses hstatus]

end Http.ProcessingService

/-- The result of processing settles the outcome of a delivery. -/
theorem Consumer.handle_processed {consumer : Consumer} {job : Job} {deeds : List Deed} {outcome : Outcome}
    {request : JobRequest} {result : Except ProcessingError Unit}
    (h : (consumer.handle job).Leads deeds (.done outcome)) :
    ⟨.process request, result⟩ ∈ deeds → outcome = match result with
      | .ok _ => .success
      | .error error => .failure (.processing error) := by
  intro hresult
  have haside : ∀ {d : Deed}, d.e.IsAside consumer.queue → d ≠ ⟨.process request, result⟩ := by
    rintro d h rfl
    cases h
  rcases handle_leads h with ⟨hall, _⟩ | ⟨r, first, later, hfirst, rfl, hproceed⟩
  · exact absurd rfl (haside (hall _ hresult))
  have hlater : ⟨.process request, result⟩ ∈ later := by
    simpa [(haside hfirst).symm] using hresult
  rcases proceed_leads hproceed with hall | ⟨request', result', last, _, _, rfl, hlast, hconclude⟩
  · exact absurd rfl (haside (hall _ hlater))
  · rcases List.mem_append.1 hlater with hmem | hmem
    · exact absurd rfl (haside (hlast _ hmem))
    · cases List.mem_singleton.1 hmem
      exact hconclude.gives (consumer.conclude_gives job result)

namespace Http.ProcessingService

/-- A request has been processed if and only if it has a final response that does not refuse it. If only
success counted, the responses of a success and of a failure would mean what they do mean, and no other
response would. A delivery succeeds on the same terms as its request is processed. -/
theorem processes_unless_refused (service : ProcessingService) (network : Network) :
    (∀ request,
      (service.process network request = .ok () ↔
        ∃ status, EndsWith network (service.sent request) status ∧ ¬ Refuses status) ∧
      ∀ status, EndsWith network (service.sent request) status →
        (Refuses status → service.process network request = .error (refusal status)) ∧
        (service.process network request = judgeStrictly status ↔ Succeeds status ∨ Refuses status)) ∧
    ∀ (consumer : Consumer) job deeds outcome, (consumer.handle job).Leads deeds (.done outcome) →
      (∀ request result, ⟨.process request, result⟩ ∈ deeds → result = service.process network request) →
      (outcome = .success ↔ ∃ request status, ⟨.process request, .ok ()⟩ ∈ deeds ∧
        EndsWith network (service.sent request) status ∧ ¬ Refuses status) := by
  refine ⟨fun request => ⟨process_ok_iff, fun status h => ?_⟩, fun consumer job deeds outcome h hservice => ?_⟩
  · rw [process_of_endsWith h]
    exact ⟨judge_of_refuses, judge_eq_judgeStrictly_iff⟩
  constructor
  · rintro rfl
    rcases Consumer.handle_done h with ⟨_, _, hexplains⟩
    cases hexplains with
    | succeeded request _ hprocessed =>
      rcases process_ok_iff.1 (hservice _ _ hprocessed).symm with ⟨status, hends, hstatus⟩
      exact ⟨request, status, hprocessed, hends, hstatus⟩
  · rintro ⟨request, _, hprocessed, _⟩
    exact Consumer.handle_processed h hprocessed

/-! ### Fixed inputs -/

/-- An address on a machine. -/
def sampleUrl (path : String) : Url :=
  ⟨"http", some ⟨"", none, some (.domain "processing"), some 8080⟩, path, none, none⟩

def sample : ProcessingService :=
  ⟨sampleUrl "/process", .ofSeconds 10⟩

/-- The consumer of the sample jobs. -/
def sampleConsumer : Consumer :=
  ⟨.sample, .ofSeconds 60, Validation.defaultMaxQueryLength⟩

/-- What the sample job asks for. -/
def sampleRequest : JobRequest :=
  ⟨"j1", "q", "c"⟩

/-- The service has moved, and where it has moved it is not available. -/
def sampleMoved : Network
  | [] => .failure
  | [_] => .response 307 (some (sampleUrl "/v2/process"))
  | _ :: _ :: _ => .response 503 none

theorem sample_handle : sampleConsumer.handle .sample = sampleConsumer.gates .sample (.ok sampleRequest) := by
  have hvalid : Validation.validate sampleConsumer.maxQueryLength .sample = .ok sampleRequest := by rfl
  rw [Consumer.handle, hvalid]

/-- A request that is redirected to a service that is not available is refused, and so its delivery does not
succeed. -/
theorem sample_moved_refused :
    EndsWith sampleMoved (sample.sent sampleRequest) 503 ∧
      sample.process sampleMoved sampleRequest = .error (refusal 503) ∧
      sample.process sampleMoved sampleRequest = judgeStrictly 503 ∧
      ∃ deeds outcome, (sampleConsumer.handle .sample).Leads deeds (.done outcome) ∧
        ⟨.process sampleRequest, .error (refusal 503)⟩ ∈ deeds ∧ outcome ≠ .success := by
  have hmoved : Journey sampleMoved (sample.sent sampleRequest) _ := .redirected .start rfl rfl
  have hends : EndsWith sampleMoved (sample.sent sampleRequest) 503 :=
    .answered hmoved (by decide) rfl rfl rfl
  rcases processes_unless_refused sample sampleMoved with ⟨hprocess, hdelivery⟩
  have hrefuses : Refuses 503 := by decide
  have hrefused := ((hprocess sampleRequest).2 503 hends).1 hrefuses
  have hstrictly := ((hprocess sampleRequest).2 503 hends).2.2 (.inr hrefuses)
  have hstart : (sampleConsumer.gates .sample (.ok sampleRequest)).Leads [] _ := .refl
  have hprocessed := ((hstart.step ()).step (.ok true : Except StoreError Bool)).step
    (.error (refusal 503) : Except ProcessingError Unit)
  have hdone := (((hprocessed.step ()).step (0 : Int)).step (.ok () : Except StoreError Unit)).step ()
  rw [← sample_handle] at hdone
  refine ⟨hends, hrefused, hstrictly, _, _, hdone, by simp, ?_⟩
  intro hsuccess
  have hgoes := hdelivery sampleConsumer .sample _ _ hdone (by simp [hrefused])
  rcases hgoes.1 hsuccess with ⟨request, status, hok, _, _⟩
  simp at hok

/-- What it looks like for a service to say that nothing has changed. -/
def sampleUnmodified : Network := fun _ => .response 304 none

/-- Such a response says neither that the request succeeded nor that it failed. The request has been processed,
and its delivery succeeds. -/
theorem sample_unmodified_processed :
    EndsWith sampleUnmodified (sample.sent sampleRequest) 304 ∧
      (∀ status, EndsWith sampleUnmodified (sample.sent sampleRequest) status → ¬ Succeeds status) ∧
      sample.process sampleUnmodified sampleRequest = .ok () ∧
      sample.process sampleUnmodified sampleRequest ≠ .error (refusal 304) ∧
      ∃ deeds, (sampleConsumer.handle .sample).Leads deeds (.done .success) ∧
        ∀ request result, ⟨.process request, result⟩ ∈ deeds →
          request = sampleRequest ∧ result = sample.process sampleUnmodified request := by
  have hends : EndsWith sampleUnmodified (sample.sent sampleRequest) 304 :=
    .answered .start (by decide) rfl rfl rfl
  have hok : sample.process sampleUnmodified sampleRequest = .ok () := process_of_endsWith hends
  have hstart : (sampleConsumer.gates .sample (.ok sampleRequest)).Leads [] _ := .refl
  have hprocessed := ((hstart.step ()).step (.ok true : Except StoreError Bool)).step
    (.ok () : Except ProcessingError Unit)
  have hdone := (hprocessed.step ()).step ()
  rw [← sample_handle] at hdone
  refine ⟨hends, fun status h => ?_, hok, ?_, _, hdone, by simp [hok]⟩
  · rw [h.unique hends]
    decide
  · rw [hok]
    nofun

end Http.ProcessingService

end JobQueue
