import JobQueue.Proofs.Queue.Alone
import JobQueue.Proofs.Worker.Alone

/-! What becomes of the deliveries of a job that always fails. -/

namespace JobQueue

open Time (Duration)

namespace Consumer

open Scene

variable {consumer : Consumer} {K : Conditions} {world : World} {s : Scene consumer.workers}

/-- Every delivery of a job that was handled carries a request. -/
def AlwaysValid (consumer : Consumer) (id : String) (history : List (Event consumer.workers)) : Prop :=
  ∀ n reserved, .began n (.handle reserved) ∈ history → reserved.job.id = id →
    ∃ request, Validation.validate consumer.maxQueryLength reserved.job = .ok request

/-- Every request for a job that was processed gave an error. -/
def AlwaysFails (consumer : Consumer) (id : String) (history : List (Event consumer.workers)) : Prop :=
  ∀ n op time wall request a, .did n op time wall (.process request) a ∈ history → request.jobId = id →
    ∃ error, a = .error error

/-- A delivery that is settled was handled, and the dedup gate answered for it. -/
theorem exists_handled (h : Reachable K world s) {n : Nat} {reserved : ReservedJob} {outcome : Outcome}
    (hsettle : .began n (.settle reserved outcome) ∈ s.history) :
    ∃ m r, .ended m (.handle reserved) (.handled outcome) ∈ s.history ∧
      ⟨consumer.asks reserved.job, r⟩ ∈ deeds m s.history ∧
      consumer.Explains reserved.job (deeds m s.history) r outcome := by
  obtain ⟨m, op, reply, hended, hgains⟩ := h.earned.began n _ _ hsettle rfl
  obtain ⟨rfl, rfl⟩ := WorkerOp.gains_handled hgains
  obtain ⟨-, hleads, -⟩ := h.tracked.ended m _ _ hended
  obtain ⟨_, hhandle, heq⟩ := hleads.of_map_done
  obtain rfl := WorkerReply.handled.inj heq
  obtain ⟨r, hasks, hexplains⟩ := handle_done hhandle
  exact ⟨m, r, hended, hasks, hexplains⟩

/-- A delivery of a valid job that is not processed without an error is settled by the answer of the dedup
gate and by the attempts that are left. -/
theorem Explains.settlement {job : Job} {deeds : List Deed} {b : Bool} {outcome : Outcome}
    (h : consumer.Explains job deeds (.ok b) outcome)
    (hvalid : ∃ request, Validation.validate consumer.maxQueryLength job = .ok request)
    (herrors : ∀ request, request.jobId = job.id → ⟨.process request, .ok ()⟩ ∉ deeds)
    (attempt : Nat) :
    Settlement.ofOutcome consumer.queue attempt outcome =
      if b = false then .complete
      else if attempt < consumer.queue.maxAttempts then .retry
      else .exhaust := by
  cases h with
  | skipped => rfl
  | rejected error herror =>
    obtain ⟨request, hrequest⟩ := hvalid
    cases hrequest.symm.trans herror
  | succeeded request hid hprocess => exact absurd hprocess (herrors request hid)
  | failed request error hid hprocess => rfl

/-- A delivery is skipped exactly if its job did not get through the dedup gate. -/
theorem Explains.skipped_iff {job : Job} {deeds : List Deed} {b : Bool} {outcome : Outcome}
    (h : consumer.Explains job deeds (.ok b) outcome) : outcome = .skipped ↔ b = false := by
  cases h <;> simp

/-- What a settlement has done when it is over. -/
theorem settled_of_ended (hK : ¬K.failing) (hanswers : world.jobs.Answers) (h : Reachable K world s)
    {n : Nat} {reserved : ReservedJob} {outcome : Outcome} {reply : WorkerReply}
    (hended : .ended n (.settle reserved outcome) reply ∈ s.history) :
    (Settlement.ofOutcome consumer.queue reserved.job.attempt outcome = .retry →
      ∃ next reading due,
        (∃ time, .did n (.settle reserved outcome) time reading .clock reading ∈ s.history) ∧
        Settlement.Reschedules consumer.queue reserved next reading due (deeds n s.history)) ∧
    (Settlement.ofOutcome consumer.queue reserved.job.attempt outcome = .exhaust →
      consumer.queue.keepsFailed = true →
      reserved.envelope ∈ s.world.jobs.store.lists.get consumer.queue.failedKey) := by
  obtain ⟨hbegan, hleads, -⟩ := h.tracked.ended n _ _ hended
  obtain ⟨r, hsettle, -⟩ := hleads.of_map_done
  have hanswered := h.answered_deeds hK hanswers n
  rw [Queue.settle] at hsettle
  refine ⟨fun hretry => ?_, fun hexhaust hkeeps => ?_⟩
  · rw [hretry] at hsettle
    obtain ⟨next, reading, due, hreschedules⟩ :=
      Settlement.retry_leads consumer.queue reserved hsettle hanswered
    obtain ⟨removed, hdeeds⟩ := hreschedules.done
    exact ⟨next, reading, due, h.exists_reading hbegan (by simp [hdeeds]), hreschedules⟩
  · rw [hexhaust] at hsettle
    have hburied := Settlement.exhaust_leads consumer.queue reserved hsettle hanswered hkeeps
    obtain ⟨op, time, wall, hdid⟩ := exists_of_mem_deeds hburied
    exact h.mem_of_pushed (fun op => (op.program_each consumer).mono fun _ => And.right)
      n op time wall _ hdid

/-- Where no command fails, a delivery of a job that always fails is skipped and completed exactly if the dedup
gate had a record of the job. It is else scheduled again as long as attempts are left, for the end of the backoff
that starts when its settlement reads the clock, and put to the failed ones after the last. A backoff with more
milliseconds than a signed word is cut to its low bits. -/
theorem settles_failing {id : String} (hK : ¬K.failing) (hanswers : world.jobs.Answers)
    (h : Reachable K world s)
    (hvalid : AlwaysValid consumer id s.history) (hfails : AlwaysFails consumer id s.history)
    {n : Nat} {reserved : ReservedJob} {outcome : Outcome}
    (hsettle : .began n (.settle reserved outcome) ∈ s.history) (hid : reserved.job.id = id) :
    ∃ (m now : Nat) (wall : Int) (b : Bool) (later earlier : List (Event consumer.workers)),
      .ended m (.handle reserved) (.handled outcome) ∈ s.history ∧
      s.history = later ++
        .did m (.handle reserved) now wall (consumer.asks reserved.job) (.ok b) :: earlier ∧
      (b = false ↔ Dedup.Recorded consumer.window world.jobs.store id earlier now) ∧
      (outcome = .skipped ↔ b = false) ∧
      Settlement.ofOutcome consumer.queue reserved.job.attempt outcome =
        (if b = false then .complete
          else if reserved.job.attempt < consumer.queue.maxAttempts then .retry
          else .exhaust) ∧
      ∀ reply, .ended n (.settle reserved outcome) reply ∈ s.history →
        (Settlement.ofOutcome consumer.queue reserved.job.attempt outcome = .retry →
          ∃ next reading due,
            (∃ time, .did n (.settle reserved outcome) time reading .clock reading ∈ s.history) ∧
            Settlement.Reschedules consumer.queue reserved next reading due (deeds n s.history) ∧
            ((consumer.queue.retryPolicy.interval reserved.job.attempt).millis ≤ Word.signedMax64 →
              due = QueueConfig.dueTime reading
                (consumer.queue.retryPolicy.interval reserved.job.attempt))) ∧
        (Settlement.ofOutcome consumer.queue reserved.job.attempt outcome = .exhaust →
          consumer.queue.keepsFailed = true →
          reserved.envelope ∈ s.world.jobs.store.lists.get consumer.queue.failedKey) := by
  have ht := h.tracked
  obtain ⟨m, r, hended, hasks, hexplains⟩ := exists_handled h hsettle
  obtain ⟨hbegan, -, -⟩ := ht.ended m _ _ hended
  obtain ⟨op, now, wall, hdid⟩ := exists_of_mem_deeds hasks
  have hanswered := h.answered_deeds hK hanswers m _ hasks
  obtain ⟨b, rfl⟩ : ∃ b, r = .ok b := by
    cases r with
    | ok b => exact ⟨b, rfl⟩
    | error error => exact absurd rfl (hanswered _ error)
  obtain rfl : op = .handle reserved := (ht.began m _ hbegan).2 op (ht.did _ _ _ _ _ _ hdid)
  obtain ⟨later, earlier, hhistory⟩ := List.append_of_mem hdid
  refine ⟨m, now, wall, b, later, earlier, hended, hhistory, ?_, hexplains.skipped_iff, ?_, fun reply hover => ?_⟩
  · have hr := Dedup.Records.of_reachable consumer.window
      (fun op => (op.program_each consumer).mono fun _ => And.left) h
    have hfair := hr.fair later _ earlier hhistory reserved.job.id rfl
    rw [← hid, ← Bool.not_eq_true, hfair, Classical.not_not]
  · refine hexplains.settlement (hvalid m reserved hbegan hid) (fun request hrequest hprocess => ?_) _
    obtain ⟨op, time, wall, hdid⟩ := exists_of_mem_deeds hprocess
    obtain ⟨error, herror⟩ := hfails _ _ _ _ _ _ hdid (hrequest.trans hid)
    cases herror
  · obtain ⟨hretry, hexhaust⟩ := settled_of_ended hK hanswers h hover
    refine ⟨fun hchosen => ?_, hexhaust⟩
    obtain ⟨next, reading, due, hread, hreschedules⟩ := hretry hchosen
    exact ⟨next, reading, due, hread, hreschedules, hreschedules.due_eq consumer.queue reserved⟩

/-! ### Fixed inputs -/

/-- A consumer with a window of a minute. -/
def sample : Consumer :=
  ⟨.sample, .ofSeconds 60, Validation.defaultMaxQueryLength⟩

/-- A world in which the processing of the job gives an error. -/
def sampleWorld : World :=
  .new [⟨"q", 0, some "boom"⟩] false 0

/-- The job is enqueued and delivered, and the delivery is settled. -/
def sampleTurns : List WorkerTurn :=
  [.calls (.enqueue .sample), .calls .dequeue, .serves, .serves]

/-- An event of a delivery that is valid, or of a request that gave an error. -/
def isFailing (consumer : Consumer) : Event consumer.workers → Bool
  | .began _ (.handle reserved) => (Validation.validate consumer.maxQueryLength reserved.job).isOk
  | .did _ _ _ _ (.process _) (.ok _) => false
  | _ => true

/-- The last event is the end of a settlement. -/
def endsWith (consumer : Consumer) (id : String) (settlement : Settlement) :
    List (Event consumer.workers) → Bool
  | .ended _ (.settle reserved outcome) _ :: _ =>
    reserved.job.id == id &&
      Settlement.ofOutcome consumer.queue reserved.job.attempt outcome == settlement
  | _ => false

theorem isFailing_sound {consumer : Consumer} {history : List (Event consumer.workers)}
    (h : history.all (isFailing consumer) = true) (id : String) :
    AlwaysValid consumer id history ∧ AlwaysFails consumer id history := by
  rw [List.all_eq_true] at h
  refine ⟨fun n reserved hbegan _ => ?_, fun n op time wall request a hdid _ => ?_⟩
  · have hvalid := h _ hbegan
    simp only [isFailing] at hvalid
    cases hrequest : Validation.validate consumer.maxQueryLength reserved.job with
    | ok request => exact ⟨request, rfl⟩
    | error error =>
      rw [hrequest] at hvalid
      cases hvalid
  · cases a with
    | ok _ => cases h _ hdid
    | error error => exact ⟨error, rfl⟩

theorem endsWith_sound {consumer : Consumer} {history : List (Event consumer.workers)} {id : String}
    {settlement : Settlement} (h : endsWith consumer id settlement history = true) :
    ∃ n reserved outcome reply, .ended n (.settle reserved outcome) reply ∈ history ∧
      reserved.job.id = id ∧
      Settlement.ofOutcome consumer.queue reserved.job.attempt outcome = settlement := by
  unfold endsWith at h
  split at h
  next n reserved outcome reply history =>
    rw [Bool.and_eq_true, beq_iff_eq, beq_iff_eq] at h
    exact ⟨n, reserved, outcome, reply, .head _, h⟩
  next => cases h

/-- The turns of a worker are a run on a job that always fails, at the end of which it was settled. -/
theorem exists_of_turns {turns : List WorkerTurn} {settlement : Settlement}
    {p : Scene sample.workers → Bool}
    (h : ((turns.foldlM turn (start sampleWorld : Scene sample.workers)).any fun s =>
      s.history.all (isFailing sample) && endsWith sample "j1" settlement s.history && p s) = true) :
    ∃ s : Scene sample.workers, Reachable .reliable sampleWorld s ∧ AlwaysValid sample "j1" s.history ∧
      AlwaysFails sample "j1" s.history ∧ p s = true ∧
      ∃ n reserved outcome reply, .began n (.settle reserved outcome) ∈ s.history ∧
        .ended n (.settle reserved outcome) reply ∈ s.history ∧ reserved.job.id = "j1" ∧
        Settlement.ofOutcome sample.queue reserved.job.attempt outcome = settlement := by
  obtain ⟨s, hturns, hs⟩ := (Option.any_eq_true ..).1 h
  rw [Bool.and_eq_true, Bool.and_eq_true] at hs
  obtain ⟨⟨hfailing, hends⟩, hp⟩ := hs
  obtain ⟨hvalid, hfails⟩ := isFailing_sound hfailing "j1"
  obtain ⟨n, reserved, outcome, reply, hended, hid, hsettlement⟩ := endsWith_sound hends
  have hrun := run_of_turns hturns
  obtain ⟨hbegan, -, -⟩ := (Reachable.tracked hrun).ended n _ _ hended
  exact ⟨s, hrun, hvalid, hfails, hp, n, reserved, outcome, reply, hbegan, hended, hid, hsettlement⟩

/-- All commands were sent at the start of 1970, and only first deliveries were settled. -/
def isFirst : Event sample.workers → Bool
  | .began _ (.settle reserved _) => reserved.job.attempt == 1
  | .did _ _ _ wall _ _ => wall == 0
  | _ => true

/-- The same turns with the last delivery of the job. -/
def lastTurns : List WorkerTurn :=
  [.calls (.enqueue { Job.sample with attempt := 5 }), .calls .dequeue, .serves, .serves]

/-- The first delivery of a job that fails is scheduled again for one second later, and the fifth one is put to the
failed ones. -/
theorem sample_failing_rescheduled :
    (∃ (s : Scene sample.workers) (n : Nat) (reserved : ReservedJob) (next : Job),
      Reachable .reliable sampleWorld s ∧ reserved.job.id = "j1" ∧
      Settlement.Reschedules sample.queue reserved next 0 1000 (deeds n s.history)) ∧
    ∃ (s : Scene sample.workers) (reserved : ReservedJob), Reachable .reliable sampleWorld s ∧
      reserved.job.id = "j1" ∧ reserved.envelope ∈ s.world.jobs.store.lists.get sample.queue.failedKey := by
  constructor
  · have hturns : ((sampleTurns.foldlM turn (start sampleWorld : Scene sample.workers)).any fun s =>
        s.history.all (isFailing sample) && endsWith sample "j1" .retry s.history &&
          s.history.all isFirst) = true := by
      decide +kernel
    obtain ⟨s, hrun, hvalid, hfails, hfirst, n, reserved, outcome, reply, hbegan, hended, hid, hretry⟩ :=
      exists_of_turns hturns
    obtain ⟨m, now, wall, b, later, earlier, -, -, -, -, -, hover⟩ :=
      settles_failing (K := .reliable) id (fun _ => ⟨rfl, rfl⟩) hrun hvalid hfails hbegan hid
    obtain ⟨next, reading, due, ⟨time, hread⟩, hreschedules, hdue⟩ := (hover reply hended).1 hretry
    rw [List.all_eq_true] at hfirst
    have hattempt : reserved.job.attempt = 1 := beq_iff_eq.1 (hfirst _ hbegan)
    obtain rfl : reading = 0 := beq_iff_eq.1 (hfirst _ hread)
    rw [hattempt] at hdue
    obtain rfl : due = 1000 := hdue (by decide)
    exact ⟨s, n, reserved, next, hrun, hid, hreschedules⟩
  · have hturns : ((lastTurns.foldlM turn (start sampleWorld : Scene sample.workers)).any fun s =>
        s.history.all (isFailing sample) && endsWith sample "j1" .exhaust s.history && true) = true := by
      decide +kernel
    obtain ⟨s, hrun, hvalid, hfails, -, n, reserved, outcome, reply, hbegan, hended, hid, hexhaust⟩ :=
      exists_of_turns hturns
    obtain ⟨m, now, wall, b, later, earlier, -, -, -, -, -, hover⟩ :=
      settles_failing (K := .reliable) id (fun _ => ⟨rfl, rfl⟩) hrun hvalid hfails hbegan hid
    exact ⟨s, reserved, hrun, hid, (hover reply hended).2 hexhaust rfl⟩

/-- The queue has no trace of a job left, neither of deliveries to come nor of failed ones. -/
def isEmpty (s : Scene sample.workers) : Bool :=
  let store := s.world.jobs.store
  (store.lists.get sample.queue.waitKey).isEmpty && (store.lists.get sample.queue.activeKey).isEmpty &&
    (store.lists.get sample.queue.failedKey).isEmpty &&
    (store.sortedSets.get sample.queue.delayedKey).isEmpty

/-- The second delivery of a job that fails comes too soon for the dedup gate and is completed, with
attempts left. The job is gone. -/
theorem sample_failing_completed :
    ∃ s : Scene sample.workers, Reachable .reliable sampleWorld s ∧ sampleWorld.jobs.Answers ∧
      AlwaysValid sample "j1" s.history ∧ AlwaysFails sample "j1" s.history ∧ isEmpty s = true ∧
      ∃ n reserved outcome, .began n (.settle reserved outcome) ∈ s.history ∧
        reserved.job.id = "j1" ∧
        Settlement.ofOutcome sample.queue reserved.job.attempt outcome = .complete := by
  have hturns : (((sampleTurns ++ [.waits 10000000000, .calls .promoteDue, .calls .dequeue, .serves,
      .serves] : List WorkerTurn).foldlM turn (start sampleWorld : Scene sample.workers)).any fun s =>
      s.history.all (isFailing sample) && endsWith sample "j1" .complete s.history && isEmpty s) = true := by
    decide +kernel
  obtain ⟨s, hrun, hvalid, hfails, hempty, n, reserved, outcome, reply, hbegan, -, hid, hcomplete⟩ :=
    exists_of_turns hturns
  exact ⟨s, hrun, fun _ => ⟨rfl, rfl⟩, hvalid, hfails, hempty, n, reserved, outcome, hbegan, hid, hcomplete⟩

end Consumer

end JobQueue
