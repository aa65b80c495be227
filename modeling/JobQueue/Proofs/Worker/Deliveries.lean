import JobQueue.Proofs.Consumer.Gates
import JobQueue.Proofs.Queue.InTime
import JobQueue.Proofs.Reliable
import JobQueue.Settlement

/-! The workers of a queue and the producers that fill it. A worker that holds a delivery handles it, and
settles it by what came of that. -/

namespace JobQueue

open Time (Duration)

inductive WorkerOp where
  | enqueue (job : Job)
  | promoteDue
  | dequeue
  | handle (reserved : ReservedJob)
  | settle (reserved : ReservedJob) (outcome : Outcome)

inductive WorkerReply where
  | enqueued (result : Except QueueError Unit)
  | promoted (result : Except QueueError Nat)
  | dequeued (result : Except QueueError (Option ReservedJob))
  | handled (outcome : Outcome)
  | settled (result : Except QueueError Unit)

/-- What a worker has in hand. -/
inductive WorkerThing where
  | delivery (reserved : ReservedJob)
  | handled (reserved : ReservedJob) (outcome : Outcome)

namespace WorkerOp

def program (consumer : Consumer) : WorkerOp → Program WorkerReply
  | enqueue job => (Queue.enqueue consumer.queue job).run.bind fun r => .done (.enqueued r)
  | promoteDue => (Queue.promoteDue consumer.queue).run.bind fun r => .done (.promoted r)
  | dequeue => (Queue.dequeue consumer.queue).run.bind fun r => .done (.dequeued r)
  | handle reserved => (consumer.handle reserved.job).bind fun outcome => .done (.handled outcome)
  | settle reserved outcome =>
    (Queue.settle consumer.queue reserved outcome).run.bind fun r => .done (.settled r)

/-- A delivery is handled once, and settled once with what came of it. -/
def needs : WorkerOp → Option WorkerThing
  | handle reserved => some (.delivery reserved)
  | settle reserved outcome => some (.handled reserved outcome)
  | _ => none

def gains : WorkerOp → WorkerReply → Option WorkerThing
  | dequeue, .dequeued (.ok (some reserved)) => some (.delivery reserved)
  | handle reserved, .handled outcome => some (.handled reserved outcome)
  | _, _ => none

/-- What comes of a delivery comes of handling it. -/
theorem gains_handled {op : WorkerOp} {reply : WorkerReply} {reserved : ReservedJob} {outcome : Outcome}
    (h : op.gains reply = some (.handled reserved outcome)) :
    op = .handle reserved ∧ reply = .handled outcome := by
  unfold gains at h
  split at h
  · cases h
  · cases h
    exact ⟨rfl, rfl⟩
  · cases h

end WorkerOp

/-- The workers and producers of the queue of a consumer. -/
abbrev Consumer.workers (consumer : Consumer) : Clients where
  Op := WorkerOp
  Reply := WorkerReply
  Thing := WorkerThing
  program := WorkerOp.program consumer
  needs := WorkerOp.needs
  gains := WorkerOp.gains

/-! ### Settlements -/

namespace QueueAction

/-- An action that goes on after a command that is answered does so with the answer. -/
theorem leads_send_bind {β : Type} {c : Command} {f : c.Answer → QueueAction β} {deeds : List Deed}
    {r : Except QueueError β} (h : (send c >>= f).run.Leads deeds (.done r))
    (hdeeds : ∀ d ∈ deeds, d.IsAnswered) :
    ∃ a later, deeds = later ++ [⟨.command .jobs c, .ok a⟩] ∧ (f a).run.Leads later (.done r) := by
  obtain ⟨answer, later, rfl, hlater⟩ := Program.leads_step_done h
  cases answer with
  | ok a => exact ⟨a, later, rfl, hlater⟩
  | error error => exact absurd rfl (hdeeds _ (by simp) c error)

/-- A release that is answered has removed some copies. -/
theorem release_leads {config : QueueConfig} {envelope : String} {deeds : List Deed}
    {r : Except QueueError Unit} (h : (Queue.release config envelope).run.Leads deeds (.done r))
    (hdeeds : ∀ d ∈ deeds, d.IsAnswered) :
    r = .ok () ∧ ∃ removed, deeds = [⟨.command .jobs (.lrem config.activeKey 1 envelope), .ok removed⟩] := by
  obtain ⟨removed, later, rfl, hlater⟩ := leads_send_bind h hdeeds
  obtain ⟨rfl, heq⟩ := Program.leads_done hlater
  cases heq
  exact ⟨rfl, removed, rfl⟩

end QueueAction

namespace Settlement

open QueueAction Queue

variable (config : QueueConfig) (reserved : ReservedJob)

theorem perform_each {P : Effect → Prop} (h : Quiet config P) (settlement : Settlement)
    (hschedule : settlement = .retry → ∀ next due,
      P (.command .jobs (.zadd config.delayedKey (Job.codec.text next) due))) :
    (settlement.perform config reserved).run.Each P := by
  cases settlement with
  | complete => exact h.complete_each reserved
  | retry =>
    exact each_bind (h.retry_each reserved _ (hschedule rfl)) fun _ =>
      ⟨h.count _ (.inl rfl), fun _ => trivial⟩
  | fail => exact h.fail_each reserved
  | exhaust => exact each_bind ⟨h.count _ (.inr rfl), fun _ => trivial⟩ fun _ => h.fail_each reserved

/-- What a settlement has done that schedules the next delivery, the last deed first: the backoff starts when
it reads the clock, and the next delivery is due at its end. -/
structure Reschedules (next : Job) (reading due : Int) (deeds : List Deed) : Prop where
  attempted : reserved.job.next = .ok next
  dated : QueueStage.dueFrom reading (config.retryPolicy.interval reserved.job.attempt) = .ok due
  done : ∃ removed, deeds = [⟨.count (.job .retried config.name), ()⟩,
    ⟨.command .jobs (.lrem config.activeKey 1 reserved.envelope), .ok removed⟩,
    ⟨.command .jobs (.zadd config.delayedKey (Job.codec.text next) due), .ok ()⟩, ⟨.clock, reading⟩]

/-- A backoff of which the milliseconds fit a signed word ends when it should. -/
theorem Reschedules.due_eq {next : Job} {reading due : Int} {deeds : List Deed}
    (h : Reschedules config reserved next reading due deeds)
    (hfits : (config.retryPolicy.interval reserved.job.attempt).millis ≤ Word.signedMax64) :
    due = QueueConfig.dueTime reading (config.retryPolicy.interval reserved.job.attempt) := by
  obtain ⟨-, -, rfl, -⟩ := QueueStage.dueFrom_eq_ok.1 h.dated
  rw [QueueConfig.dueTime, (Duration.signedMillis_eq_iff _).2 hfits]

/-- A settlement by a retry of which all commands are answered has scheduled the next delivery. -/
theorem retry_leads {deeds : List Deed} {r : Except QueueError Unit}
    (h : (retry.perform config reserved).run.Leads deeds (.done r)) (hdeeds : ∀ d ∈ deeds, d.IsAnswered) :
    ∃ next reading due, Reschedules config reserved next reading due deeds := by
  obtain ⟨r', later, earlier, rfl, hretry, hlater⟩ := Program.leads_bind_done h
  have hearlier : ∀ d ∈ earlier, d.IsAnswered := fun d hd => hdeeds d (List.mem_append_right later hd)
  change (Queue.retry config reserved _).run.Leads earlier _ at hretry
  rw [Queue.retry, run_ofExcept_bind] at hretry
  obtain ⟨next, hnext, hclock⟩ := Program.leads_ofExcept_bind_done hretry
  rw [run_clockMillis_bind] at hclock
  obtain ⟨reading, dated, rfl, hnanos⟩ := Program.leads_step_done hclock
  obtain ⟨nanos, hread, hsum⟩ := Program.leads_ofExcept_bind_done hnanos
  rw [run_ofExcept_bind] at hsum
  obtain ⟨due, hdue, hschedule⟩ := Program.leads_ofExcept_bind_done hsum
  have hdated : ∀ d ∈ dated, d.IsAnswered := fun d hd => hearlier d (List.mem_append_left _ hd)
  obtain ⟨⟨⟩, scheduled, rfl, hrelease⟩ := leads_send_bind hschedule hdated
  obtain ⟨rfl, removed, rfl⟩ := release_leads hrelease fun d hd => hdated d (List.mem_append_left _ hd)
  obtain ⟨⟨⟩, counted, rfl, hover⟩ := Program.leads_step_done hlater
  obtain ⟨rfl, -⟩ := Program.leads_done hover
  refine ⟨next, reading, due, hnext, ?_, removed, rfl⟩
  rw [QueueStage.dueFrom, hread]
  exact hdue

/-- A settlement without attempts left of which all commands are answered has put the delivery to the failed
ones, if these are kept. -/
theorem exhaust_leads {deeds : List Deed} {r : Except QueueError Unit}
    (h : (exhaust.perform config reserved).run.Leads deeds (.done r)) (hdeeds : ∀ d ∈ deeds, d.IsAnswered)
    (hkeeps : config.keepsFailed = true) :
    ⟨.command .jobs (.rpush config.failedKey reserved.envelope), .ok ()⟩ ∈ deeds := by
  obtain ⟨⟨⟩, failed, rfl, hfail⟩ := Program.leads_step_done h
  change (Queue.fail config reserved).run.Leads failed _ at hfail
  rw [Queue.fail, if_pos hkeeps] at hfail
  obtain ⟨⟨⟩, later, rfl, -⟩ := leads_send_bind hfail fun d hd => hdeeds d (List.mem_append_left _ hd)
  simp

end Settlement

/-! ### Effects -/

namespace WorkerOp

/-- Lets an envelope wait. -/
def pushes : WorkerOp → Bool
  | enqueue _ => true
  | promoteDue => true
  | _ => false

/-- Settles a delivery by a retry. -/
def retries (config : QueueConfig) : WorkerOp → Bool
  | settle reserved outcome => Settlement.ofOutcome config reserved.job.attempt outcome == .retry
  | _ => false

/-- What holds of all effects of the queue and of handling a delivery holds of all that a worker or producer
does. -/
theorem each {consumer : Consumer} {P : Effect → Prop} (hquiet : Queue.Quiet consumer.queue P)
    (haside : ∀ e : Effect, e.IsAside consumer.queue → P e) (hasks : ∀ job, P (consumer.asks job))
    (hprocess : ∀ request, P (.process request))
    (hlist : ∀ low high, P (.command .jobs (.zrangebyscore consumer.queue.delayedKey low high)))
    (hremove : ∀ envelope, P (.command .jobs (.zrem consumer.queue.delayedKey envelope)))
    (op : WorkerOp)
    (hpush : op.pushes = true → ∀ envelope, P (.command .jobs (.lpush consumer.queue.waitKey envelope)))
    (hschedule : op.retries consumer.queue = true → ∀ envelope due,
      P (.command .jobs (.zadd consumer.queue.delayedKey envelope due))) :
    (op.program consumer).Each P := by
  cases op with
  | enqueue job => exact (Queue.enqueue_each consumer.queue job (hpush rfl _)).bind fun _ => trivial
  | promoteDue =>
    exact (Queue.promoteDue_each consumer.queue hquiet.clock (fun _ => hlist _ _) hremove (hpush rfl)).bind
      fun _ => trivial
  | dequeue => exact hquiet.dequeue_each.bind fun _ => trivial
  | handle reserved =>
    exact (consumer.handle_each reserved.job haside (hasks _) hprocess).bind fun _ => trivial
  | settle reserved outcome =>
    refine (Settlement.perform_each consumer.queue reserved hquiet _ fun hretry next due => ?_).bind
      fun _ => trivial
    exact hschedule (beq_iff_eq.2 hretry) _ due

/-- Nothing that a worker or producer does sets other values than the records of the dedup gate, or takes
anything off the failed jobs. -/
theorem program_each (consumer : Consumer) (op : WorkerOp) :
    (op.program consumer).Each fun e =>
      Dedup.Guards consumer.window e ∧ e.takesFrom consumer.queue.failedKey = false := by
  have hspares : ∀ e, Queue.Spares consumer.queue e →
      Dedup.Guards consumer.window e ∧ e.takesFrom consumer.queue.failedKey = false :=
    fun e h => ⟨.inl h.1, h.2⟩
  exact each ((Queue.spares_quiet consumer.queue).mono hspares)
    (fun e h => ⟨.inl h.spares.1, h.spares.2.2 _⟩) (fun job => ⟨.inr ⟨job.id, rfl⟩, rfl⟩)
    (fun _ => ⟨.inl rfl, rfl⟩) (fun _ _ => ⟨.inl rfl, rfl⟩) (fun _ => ⟨.inl rfl, rfl⟩) op
    (fun _ _ => ⟨.inl rfl, rfl⟩) fun _ _ _ => ⟨.inl rfl, rfl⟩

end WorkerOp

end JobQueue
