import JobQueue.Proofs.Queue.Flow
import JobQueue.Proofs.Worker.Settled

/-! How often a job is delivered. Every delivery with an attempt takes off an envelope that was offered with
that attempt, or one that a retry of a delivery with the attempt before has scheduled, and a retry needs
attempts that are left. -/

namespace JobQueue

open Time (Duration)

/-- The attempt that an envelope shows if it is one of the given id. -/
def Job.attempt? (id envelope : String) : Option Nat :=
  match Job.codec.ofText envelope with
  | .ok job => if job.id = id then some job.attempt else none
  | .error _ => none

/-- An envelope of the given id and attempt. -/
def Job.shows (id : String) (k : Nat) (envelope : String) : Bool :=
  Job.attempt? id envelope == some k

/-- A delivery of the given id and attempt. -/
def ReservedJob.isOf (id : String) (k : Nat) (reserved : ReservedJob) : Bool :=
  reserved.job.id == id && reserved.job.attempt == k

namespace WorkerThing

/-- A delivery of the given id and attempt that is yet to be handled. -/
def isDelivery (id : String) (k : Nat) : WorkerThing → Bool
  | delivery reserved => reserved.isOf id k
  | handled _ _ => false

/-- A delivery of the given id and attempt that is yet to be settled. -/
def isHandled (id : String) (k : Nat) : WorkerThing → Bool
  | delivery _ => false
  | handled reserved _ => reserved.isOf id k

end WorkerThing

namespace WorkerOp

def isEnqueue : WorkerOp → Bool
  | enqueue _ => true
  | _ => false

/-- The next delivery, if there is one, has an envelope of a kind. -/
def continues (p : String → Bool) : WorkerOp → Bool
  | settle reserved _ => Queue.continues p reserved
  | _ => false

theorem gains_delivery {op : WorkerOp} {reply : WorkerReply} {id : String} {k : Nat}
    (h : (op.gains reply).any (WorkerThing.isDelivery id k) = true) :
    op = .dequeue ∧ ∃ reserved, reply = .dequeued (.ok (some reserved)) ∧ reserved.isOf id k = true := by
  unfold gains at h
  split at h
  next reserved => exact ⟨rfl, reserved, rfl, h⟩
  next => cases h
  next => cases h

end WorkerOp

/-- A retry is chosen only as long as attempts are left. -/
theorem Settlement.lt_of_retry {config : QueueConfig} {attempt : Nat} {outcome : Outcome}
    (h : ofOutcome config attempt outcome = .retry) : attempt < config.maxAttempts := by
  unfold ofOutcome at h
  split at h
  · cases h
  · cases h
  · split at h
    · split at h
      next hlt => exact hlt
      next => cases h
    · cases h

namespace Job

theorem shows_iff {id envelope : String} {k : Nat} :
    shows id k envelope = true ↔
      ∃ job, Job.codec.ofText envelope = .ok job ∧ job.id = id ∧ job.attempt = k := by
  unfold shows attempt?
  cases hread : Job.codec.ofText envelope with
  | error fault => simp
  | ok job => simp

/-- The text of a job shows its attempt, if it is read at all. -/
theorem of_shows_text {id : String} {k : Nat} {job : Job} (h : shows id k (Job.codec.text job) = true) :
    job.id = id ∧ job.attempt = k := by
  obtain ⟨job', hread, hid, hattempt⟩ := shows_iff.1 h
  obtain ⟨hid', hattempt'⟩ := ofText_text hread
  exact ⟨hid' ▸ hid, hattempt' ▸ hattempt⟩

end Job

/-- What continues a delivery has the same id and one attempt more. -/
theorem Queue.of_continues {id : String} {k : Nat} {reserved : ReservedJob}
    (h : continues (Job.shows id k) reserved = true) :
    reserved.job.id = id ∧ k = reserved.job.attempt + 1 := by
  unfold continues at h
  split at h
  next next hnext =>
    obtain ⟨hid, hattempt⟩ := Job.of_shows_text h
    exact ⟨(Job.next_id hnext).symm.trans hid, hattempt ▸ Job.next_attempt hnext⟩
  next => cases h

/-- What is counted at each number at most as often as there are lower bounds for it, of which those up to
the limit bound all numbers between and the others only themselves, is counted by them. -/
theorem length_le_sum_spans {ns bounds : List Nat} {limit : Nat}
    (h : ∀ k, ns.count k ≤ bounds.countP fun a => a ≤ k && (k ≤ limit || a == k)) :
    ns.length ≤ (bounds.map fun a => max 1 (limit + 1 - a)).sum := by
  have hbelow : ∀ n, ns.countP (· < n) ≤
      (bounds.map fun a => if a < n then max 1 (min n (limit + 1) - a) else 0).sum := by
    intro n
    induction n with
    | zero => simp
    | succ n ih =>
      have hcount : ns.countP (· < n + 1) = ns.countP (· < n) + ns.count n := by
        clear h ih
        induction ns with
        | nil => rfl
        | cons m ns ih =>
          rw [List.countP_cons, List.countP_cons, List.count_cons, ih]
          simp only [decide_eq_true_eq, beq_iff_eq]
          split <;> split <;> split <;> omega
      have hsum : (bounds.map fun a => if a < n + 1 then max 1 (min (n + 1) (limit + 1) - a) else 0).sum =
          (bounds.map fun a => if a < n then max 1 (min n (limit + 1) - a) else 0).sum +
            bounds.countP fun a => a ≤ n && (n ≤ limit || a == n) := by
        clear h ih
        induction bounds with
        | nil => rfl
        | cons a bounds ih =>
          rw [List.map_cons, List.map_cons, List.sum_cons, List.sum_cons, List.countP_cons, ih]
          simp only [Bool.and_eq_true, Bool.or_eq_true, decide_eq_true_eq, beq_iff_eq]
          split <;> split <;> split <;> omega
      rw [hcount, hsum]
      exact Nat.add_le_add ih (h n)
  have hall : ns.countP (· < ns.sum + 1) = ns.length :=
    List.countP_eq_length.2 fun m hm => decide_eq_true (Nat.lt_succ_of_le (List.le_sum_of_mem hm))
  rw [← hall]
  refine Nat.le_trans (hbelow (ns.sum + 1)) (List.sum_le_sum fun a _ => ?_)
  split <;> omega

namespace Consumer

open Scene

variable (consumer : Consumer)

/-! ### What was offered and delivered -/

/-- The attempts with which a job of the given id was delivered. -/
def delivered (id : String) (history : List (Event consumer.workers)) : List Nat :=
  history.filterMap fun
    | .ended _ .dequeue (.dequeued (.ok (some reserved))) =>
      if reserved.job.id = id then some reserved.job.attempt else none
    | _ => none

/-- The attempts with which a job of the given id was enqueued. -/
def enqueued (id : String) (history : List (Event consumer.workers)) : List Nat :=
  history.filterMap fun
    | .did _ (.enqueue job) _ _ (.command _ (.lpush ..)) (.ok _) =>
      if job.id = id then some job.attempt else none
    | _ => none

/-- The attempts of the envelopes of a job that were enqueued, and of those that were waiting or delayed
from the start. -/
def offered (id : String) (store : Store) (history : List (Event consumer.workers)) : List Nat :=
  consumer.enqueued id history ++
    (consumer.queue.waiting store ++ (consumer.queue.delayed store).map (·.2)).filterMap (Job.attempt? id)

variable {consumer} {K : Conditions} {world : World} {s : Scene consumer.workers}

theorem count_delivered (id : String) (k : Nat) (history : List (Event consumer.workers)) :
    (consumer.delivered id history).count k =
      history.countP (Event.ends fun op reply => (WorkerOp.gains op reply).any (WorkerThing.isDelivery id k)) := by
  rw [delivered, List.count_filterMap]
  refine List.countP_congr fun event _ => ?_
  cases event with
  | ended n op reply =>
    cases op with
    | dequeue =>
      cases reply with
      | dequeued result =>
        obtain error | _ | reserved := result
        · simp [Event.ends, WorkerOp.gains]
        · simp [Event.ends, WorkerOp.gains]
        · simp [Event.ends, WorkerOp.gains, WorkerThing.isDelivery, ReservedJob.isOf]
      | _ => simp [Event.ends, WorkerOp.gains]
    | handle reserved =>
      cases reply <;> simp [Event.ends, WorkerOp.gains, WorkerThing.isDelivery]
    | _ => simp [Event.ends, WorkerOp.gains]
  | _ => simp [Event.ends]

theorem count_offered (id : String) (k : Nat) (store : Store) (history : List (Event consumer.workers)) :
    (consumer.offered id store history).count k = (consumer.enqueued id history).count k +
      ((consumer.queue.waiting store).countP (Job.shows id k) +
        (consumer.queue.delayed store).countP fun x => Job.shows id k x.2) := by
  rw [offered, List.count_append, List.count_filterMap, List.countP_append, List.countP_map]
  rfl

/-! ### From one delivery to the next -/

/-- On the side, a delivery lets nothing wait and schedules nothing. -/
theorem still_of_isAside {config : QueueConfig} {e : Effect} (h : e.IsAside config) :
    Queue.Still config e := by
  cases h with
  | record entry => exact Queue.still_rpush (by decide)
  | _ => exact fun _ _ => ⟨rfl, rfl⟩

/-- Every delivery took an envelope off the waiting ones. -/
theorem delivered_le_takes (h : Reachable K world s) (id : String) (k : Nat) :
    (consumer.delivered id s.history).count k ≤
      s.history.countP (Event.does fun _ => Deed.takes consumer.queue.waitKey (Job.shows id k)) := by
  rw [count_delivered]
  refine h.ends_le_does fun op deeds reply hleads hgains => ?_
  obtain ⟨rfl, reserved, rfl, hreserved⟩ := WorkerOp.gains_delivery hgains
  obtain ⟨r, hdequeue, heq⟩ := hleads.of_map_done
  cases heq
  obtain ⟨hread, hdeed⟩ := Queue.dequeue_leads consumer.queue hdequeue
  refine ⟨_, hdeed, ?_⟩
  simp only [Deed.takes, beq_self_eq_true, Bool.true_and]
  obtain ⟨hid, hattempt⟩ := Bool.and_eq_true_iff.1 hreserved
  exact Job.shows_iff.2 ⟨reserved.job, hread, beq_iff_eq.1 hid, beq_iff_eq.1 hattempt⟩

/-- What enqueues let wait is what was enqueued. -/
theorem pushes_le_enqueued (h : Reachable K world s) (id : String) (k : Nat) :
    s.history.countP (Event.does fun (op : WorkerOp) d =>
        op.isEnqueue && d.puts consumer.queue.waitKey (Job.shows id k)) ≤
      (consumer.enqueued id s.history).count k := by
  rw [enqueued, List.count_filterMap]
  refine List.countP_mono_left fun event hevent hdoes => ?_
  cases event with
  | did n op time wall e a =>
    obtain ⟨hop, hputs⟩ := Bool.and_eq_true_iff.1 hdoes
    cases op with
    | enqueue job =>
      have hpush : (WorkerOp.program consumer (.enqueue job)).Each fun e =>
          e = .command .jobs (.lpush consumer.queue.waitKey (Job.codec.text job)) :=
        Program.Each.bind (Queue.enqueue_each consumer.queue job rfl) fun _ => trivial
      obtain rfl := h.tracked.did_each hevent hpush
      obtain error | _ := a
      · cases hputs
      · obtain ⟨hid, hattempt⟩ := Job.of_shows_text (Bool.and_eq_true_iff.1 hputs).2
        simp [hid, hattempt]
    | _ => cases hop
  | _ => cases hdoes

/-- What else lets an envelope wait are promotions that took it off the delayed ones. -/
theorem pushes_le_removes (h : Reachable K world s) (id : String) (k : Nat) :
    s.history.countP (Event.does fun (op : WorkerOp) d =>
        !op.isEnqueue && d.puts consumer.queue.waitKey (Job.shows id k)) ≤
      s.history.countP (Event.does fun _ => Deed.removes consumer.queue.delayedKey (Job.shows id k)) := by
  refine h.does_le_does fun op deeds q hleads => ?_
  cases hpushes : op.pushes with
  | true =>
    cases op with
    | enqueue job =>
      refine Nat.le_trans (Nat.le_of_eq (List.countP_eq_zero.2 fun d _ => ?_)) (Nat.zero_le _)
      exact Bool.false_ne_true
    | promoteDue =>
      obtain ⟨q', hpromote, -⟩ := hleads.of_map
      exact (Queue.promoteDue_leads hpromote).paired.countP_le _
    | _ => cases hpushes
  | false =>
    have hnever := WorkerOp.each (P := fun e => ∀ a p, Deed.puts consumer.queue.waitKey p ⟨e, a⟩ = false)
      ((Queue.still_quiet consumer.queue).mono fun e h a p => (h a p).1)
      (fun e h a p => (still_of_isAside h a p).1) (fun _ _ _ => rfl) (fun _ _ _ => rfl)
      (fun _ _ _ _ => rfl) (fun _ _ _ => rfl) op (fun heq => by cases hpushes.symm.trans heq)
      fun _ _ _ _ _ => rfl
    have hnone : (WorkerOp.program consumer op).AtMost
        (fun d => !op.isEnqueue && d.puts consumer.queue.waitKey (Job.shows id k)) 0 :=
      .of_each (hnever.mono fun e h a => by rw [h, Bool.and_false])
    exact Nat.le_trans (hnone _ _ hleads) (Nat.zero_le _)

/-- Every envelope that is scheduled is the next one of a delivery that is settled by a retry. -/
theorem schedules_le_retries (h : Reachable K world s) (id : String) (k : Nat) :
    s.history.countP (Event.does fun _ => Deed.schedules consumer.queue.delayedKey (Job.shows id k)) ≤
      s.history.countP (Event.begins fun (op : WorkerOp) =>
        op.retries consumer.queue && op.continues (Job.shows id k)) := by
  refine h.does_le_begins fun op deeds q hleads => ?_
  cases hretries : op.retries consumer.queue with
  | true =>
    cases op with
    | settle reserved outcome =>
      obtain ⟨q', hsettle, -⟩ := hleads.of_map
      rw [Queue.settle, beq_iff_eq.1 hretries] at hsettle
      have hcount : (QueueAction.count .retried consumer.queue.name).run.AtMost
          (Deed.schedules consumer.queue.delayedKey (Job.shows id k)) 0 :=
        .of_each ⟨fun _ => rfl, fun _ => trivial⟩
      have hretry := Queue.atMost_bind (Queue.retry_atMost consumer.queue reserved
        (consumer.queue.retryPolicy.interval reserved.job.attempt) (Job.shows id k)) fun _ => hcount
      exact hretry _ _ hsettle
    | _ => cases hretries
  | false =>
    have hnever := WorkerOp.each
      (P := fun e => ∀ a p, Deed.schedules consumer.queue.delayedKey p ⟨e, a⟩ = false)
      ((Queue.still_quiet consumer.queue).mono fun e h a p => (h a p).2)
      (fun e h a p => (still_of_isAside h a p).2) (fun _ _ _ => rfl) (fun _ _ _ => rfl)
      (fun _ _ _ _ => rfl) (fun _ _ _ => rfl) op (fun _ _ _ _ => rfl)
      fun heq => by cases hretries.symm.trans heq
    have hnone : (WorkerOp.program consumer op).AtMost
        (Deed.schedules consumer.queue.delayedKey (Job.shows id k)) 0 :=
      .of_each (hnever.mono fun e h a => h a _)
    exact Nat.le_trans (hnone _ _ hleads) (Nat.zero_le _)

/-- A delivery that is settled was handled, and was delivered before. -/
theorem begins_isHandled_le (h : Reachable K world s) (id : String) (k : Nat) :
    s.history.countP (Event.begins fun op => (WorkerOp.needs op).any (WorkerThing.isHandled id k)) ≤
      (consumer.delivered id s.history).count k := by
  have hhandled := h.begins_le_ends (WorkerThing.isHandled id k)
  have hhandles : s.history.countP (Event.ends fun op reply =>
        (WorkerOp.gains op reply).any (WorkerThing.isHandled id k)) ≤
      s.history.countP (Event.begins fun op =>
        (WorkerOp.needs op).any (WorkerThing.isDelivery id k)) := by
    refine h.ends_le_begins fun op reply hgains => ?_
    obtain ⟨thing, hthing, hof⟩ := (Option.any_eq_true ..).1 hgains
    cases thing with
    | delivery reserved => cases hof
    | handled reserved outcome =>
      obtain ⟨rfl, -⟩ := WorkerOp.gains_handled hthing
      exact hof
  have hdelivered := h.begins_le_ends (WorkerThing.isDelivery id k)
  rw [count_delivered]
  exact Nat.le_trans hhandled (Nat.le_trans hhandles hdelivered)

/-- Every retry is one of a delivery with the attempt before, and of one that has attempts left. -/
theorem retries_le_delivered (h : Reachable K world s) (id : String) (k : Nat) :
    s.history.countP (Event.begins fun (op : WorkerOp) =>
        op.retries consumer.queue && op.continues (Job.shows id k)) ≤
      if 0 < k ∧ k ≤ consumer.queue.maxAttempts then (consumer.delivered id s.history).count (k - 1)
      else 0 := by
  have hsettle : ∀ op : WorkerOp, (op.retries consumer.queue && op.continues (Job.shows id k)) = true →
      (0 < k ∧ k ≤ consumer.queue.maxAttempts) ∧
        op.needs.any (WorkerThing.isHandled id (k - 1)) = true := by
    intro op hop
    obtain ⟨hretries, hcontinues⟩ := Bool.and_eq_true_iff.1 hop
    cases op with
    | settle reserved outcome =>
      have hlt := Settlement.lt_of_retry (beq_iff_eq.1 hretries)
      obtain ⟨hid, rfl⟩ := Queue.of_continues hcontinues
      exact ⟨by omega, by simp [WorkerOp.needs, WorkerThing.isHandled, ReservedJob.isOf, hid]⟩
    | _ => cases hretries
  split
  · refine Nat.le_trans (List.countP_mono_left fun event _ hbegins => ?_)
      (begins_isHandled_le h id (k - 1))
    cases event with
    | began n op => exact (hsettle op hbegins).2
    | _ => cases hbegins
  next hnot =>
    refine Nat.le_of_eq (List.countP_eq_zero.2 fun event _ hbegins => ?_)
    cases event with
    | began n op => exact hnot (hsettle op hbegins).1
    | _ => cases hbegins

/-- One delivery more needs an envelope that was offered or a delivery with the attempt before. -/
theorem delivered_le (h : Reachable K world s) (id : String) (k : Nat) :
    (consumer.delivered id s.history).count k ≤
      (consumer.offered id world.jobs.store s.history).count k +
        if 0 < k ∧ k ≤ consumer.queue.maxAttempts then (consumer.delivered id s.history).count (k - 1)
        else 0 := by
  have htakes := delivered_le_takes h id k
  have hwaiting := h.account (Store.accounts_list consumer.queue.waitKey (Job.shows id k))
  have hsplit : s.history.countP (Event.does fun _ => Deed.puts consumer.queue.waitKey (Job.shows id k)) =
      s.history.countP (Event.does fun (op : WorkerOp) d =>
        op.isEnqueue && d.puts consumer.queue.waitKey (Job.shows id k)) +
      s.history.countP (Event.does fun (op : WorkerOp) d =>
        !op.isEnqueue && d.puts consumer.queue.waitKey (Job.shows id k)) :=
    Event.countP_does_split _ _ _
  have hpushes := pushes_le_enqueued h id k
  have hpromotes := pushes_le_removes h id k
  have hdelayed := h.account (Store.accounts_sortedSet consumer.queue.delayedKey (Job.shows id k))
  have hschedules := schedules_le_retries h id k
  have hretries := retries_le_delivered h id k
  rw [count_offered, QueueConfig.waiting, QueueConfig.delayed]
  omega

/-- An envelope that was offered leads to one delivery with its attempt, and to one with each later attempt
up to the last one that a job gets. -/
theorem count_delivered_le (h : Reachable K world s) (id : String) (k : Nat) :
    (consumer.delivered id s.history).count k ≤
      (consumer.offered id world.jobs.store s.history).countP fun a =>
        a ≤ k && (k ≤ consumer.queue.maxAttempts || a == k) := by
  generalize hoffered : consumer.offered id world.jobs.store s.history = offered
  have hnow := fun k => hoffered ▸ delivered_le h id k
  induction k with
  | zero =>
    refine Nat.le_trans (hnow 0) ?_
    rw [if_neg (fun hpos => absurd hpos.1 (Nat.lt_irrefl 0)), Nat.add_zero]
    refine List.countP_mono_left fun a _ ha => ?_
    simp [beq_iff_eq.1 ha]
  | succ k ih =>
    refine Nat.le_trans (hnow (k + 1)) ?_
    split
    next hretried =>
      rw [Nat.add_sub_cancel]
      refine Nat.le_trans (Nat.add_le_add_left ih _) (Nat.le_of_eq ?_)
      clear hoffered hnow ih
      induction offered with
      | nil => rfl
      | cons a offered ih =>
        rw [List.count_cons, List.countP_cons, List.countP_cons, ← ih]
        simp only [Bool.and_eq_true, Bool.or_eq_true, decide_eq_true_eq, beq_iff_eq]
        split <;> split <;> split <;> omega
    next =>
      refine List.countP_mono_left fun a _ ha => ?_
      simp [beq_iff_eq.1 ha]

/-- The deliveries of a job are bounded by its attempts. There are at most as many with an attempt as
envelopes were offered with that attempt or a lower one, and beyond the last attempt that a job gets, with
just that attempt. An envelope accounts for one delivery, or for those with the attempts that are left to
it. The attempt of a delivery that is settled by a retry can always be counted up, as long as the number of
attempts that a job gets is a word. -/
theorem deliveries_bounded (h : Reachable K world s) (id : String) :
    (∀ k, (consumer.delivered id s.history).count k ≤
      (consumer.offered id world.jobs.store s.history).countP (· ≤ k)) ∧
    (∀ k, consumer.queue.maxAttempts < k → (consumer.delivered id s.history).count k ≤
      (consumer.offered id world.jobs.store s.history).count k) ∧
    (consumer.delivered id s.history).length ≤
      ((consumer.offered id world.jobs.store s.history).map fun a =>
        max 1 (consumer.queue.maxAttempts + 1 - a)).sum ∧
    (consumer.queue.maxAttempts ≤ Word.max32 → ∀ (reserved : ReservedJob) (outcome : Outcome),
      Settlement.ofOutcome consumer.queue reserved.job.attempt outcome = .retry →
      ∃ next, reserved.job.next = .ok next ∧ next.attempt = reserved.job.attempt + 1) := by
  have hcount := count_delivered_le h id
  refine ⟨fun k => ?_, fun k hk => ?_, length_le_sum_spans hcount, ?_⟩
  · exact Nat.le_trans (hcount k) (List.countP_mono_left fun a _ ha => (Bool.and_eq_true_iff.1 ha).1)
  · refine Nat.le_trans (hcount k) (List.countP_mono_left fun a _ ha => ?_)
    simpa [Nat.not_le.2 hk] using (Bool.and_eq_true_iff.1 ha).2
  · intro hword reserved outcome hretry
    have hlt : reserved.job.attempt < Job.lastAttempt :=
      Nat.lt_of_lt_of_le (Settlement.lt_of_retry hretry) hword
    exact ⟨_, if_pos hlt, rfl⟩

/-- A job that fails once is delivered twice, which is within its attempts. -/
theorem sample_delivered_twice :
    ∃ s : Scene sample.workers, Reachable .reliable sampleWorld s ∧
      sample.delivered "j1" s.history = [2, 1] ∧
      sample.offered "j1" sampleWorld.jobs.store s.history = [1] ∧
      [2, 1].count 2 ≤ [1].countP (· ≤ 2) ∧
      [2, 1].length ≤ ([1].map fun a => max 1 (sample.queue.maxAttempts + 1 - a)).sum := by
  have hturns : (((sampleTurns ++ [.waits 10000000000, .calls .promoteDue, .calls .dequeue] :
      List WorkerTurn).foldlM turn (start sampleWorld : Scene sample.workers)).any fun s =>
      sample.delivered "j1" s.history == [2, 1] &&
        sample.offered "j1" sampleWorld.jobs.store s.history == [1]) = true := by
    decide +kernel
  obtain ⟨s, hturns, hs⟩ := (Option.any_eq_true ..).1 hturns
  obtain ⟨hdelivered, hoffered⟩ := Bool.and_eq_true_iff.1 hs
  have hrun := run_of_turns hturns
  have hbounded := deliveries_bounded hrun "j1"
  rw [beq_iff_eq.1 hdelivered, beq_iff_eq.1 hoffered] at hbounded
  exact ⟨s, hrun, beq_iff_eq.1 hdelivered, beq_iff_eq.1 hoffered, hbounded.1 2, hbounded.2.2.1⟩

end Consumer

end JobQueue
