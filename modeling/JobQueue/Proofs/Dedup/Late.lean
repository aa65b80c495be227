import JobQueue.Proofs.Consumer.Gates
import JobQueue.Store.Remote
import Mathlib.Logic.Relation

/-! The dedup gate over a slow connection. A server carries out the commands that are sent to it in their
order, whether or not their clients still wait, and a client that has waited too long for a reply is told of
a timeout. What a client is told and what the server has done can then differ, and the gate goes by what the
server has done. -/

namespace JobQueue

open Time (Duration)

/-- What a server replies to the setting of a value. -/
def Reply.ofSet : Bool → Reply
  | true => okay
  | false => nil

namespace Dedup

/-- The command that asks the gate for a job. -/
abbrev asking (window : Duration) (id : String) : Command :=
  .set (key id) mark (windowSeconds window)

/-- The client is told what the server has replied. -/
theorem resultOf_ofSet (window : Duration) (id : String) (b : Bool) :
    (asking window id).resultOf (some (.ok (.ofSet b))) = .ok b := by
  cases b <;> rfl

/-- A question for a job, with its number and the time at which it was sent. -/
structure Question where
  number : Nat
  id : String
  since : Nat

/-- Something that happened to a question. -/
inductive Notice where
  | sent (q : Question)
  /-- The server has carried it out, and the job got through or did not. -/
  | served (q : Question) (time : Nat) (b : Bool)
  /-- The client goes on with a result. -/
  | told (q : Question) (time : Nat) (r : Except StoreError Bool)

/-- The clients of a gate and its server. -/
structure Exchange where
  store : Store
  now : Nat
  /-- How many questions were sent. -/
  begun : Nat
  /-- The questions whose clients wait for a reply. -/
  waiting : List Question
  /-- The questions that the server has yet to carry out, the first one first. -/
  underway : List Question
  /-- The replies that have not come in. -/
  replies : List (Question × Reply)
  /-- What has happened, the last notice first. -/
  history : List Notice

namespace Exchange

/-- Nothing was sent yet. -/
def start (store : Store) (now : Nat) : Exchange :=
  ⟨store, now, 0, [], [], [], []⟩

/-- One step of a client, the server or the clock. Clients wait for a reply no longer than `patience`. -/
inductive Step (window : Duration) (patience : Nat) : Exchange → Exchange → Prop where
  | sends {store now begun waiting underway replies history} (id : String) :
      Step window patience ⟨store, now, begun, waiting, underway, replies, history⟩
        ⟨store, now, begun + 1, ⟨begun, id, now⟩ :: waiting, underway ++ [⟨begun, id, now⟩], replies,
          .sent ⟨begun, id, now⟩ :: history⟩
  | serves {store now begun waiting underway replies history store'} (q : Question) (b : Bool)
      (h : store.run now (asking window q.id) = .ok (b, store')) :
      Step window patience ⟨store, now, begun, waiting, q :: underway, replies, history⟩
        ⟨store', now, begun, waiting, underway, (q, .ofSet b) :: replies, .served q now b :: history⟩
  | hears {store now begun underway history} (q : Question) (reply : Reply) (left right left' right')
      (h : now ≤ q.since + patience) :
      Step window patience
        ⟨store, now, begun, left ++ q :: right, underway, left' ++ (q, reply) :: right', history⟩
        ⟨store, now, begun, left ++ right, underway, left' ++ right',
          .told q now ((asking window q.id).resultOf (some (.ok reply))) :: history⟩
  | givesUp {store now begun underway replies history} (q : Question) (left right)
      (h : q.since + patience ≤ now) :
      Step window patience ⟨store, now, begun, left ++ q :: right, underway, replies, history⟩
        ⟨store, now, begun, left ++ right, underway, replies,
          .told q now ((asking window q.id).resultOf none) :: history⟩
  | waits {store now begun waiting underway replies history} (nanos : Nat) :
      Step window patience ⟨store, now, begun, waiting, underway, replies, history⟩
        ⟨store, now + nanos, begun, waiting, underway, replies, history⟩

abbrev Run (window : Duration) (patience : Nat) : Exchange → Exchange → Prop :=
  Relation.ReflTransGen (Step window patience)

/-- The times at which the server let a job through, the last one first. -/
def passes (id : String) (history : List Notice) : List Nat :=
  history.filterMap fun
    | .served q time true => if q.id = id then some time else none
    | _ => none

theorem passes_served (id : String) (q : Question) (time : Nat) (b : Bool) (history : List Notice) :
    passes id (.served q time b :: history) =
      if q.id = id ∧ b = true then time :: passes id history else passes id history := by
  cases b with
  | false => simp [passes]
  | true => by_cases hid : q.id = id <;> simp [passes, hid]

variable {window : Duration} {patience : Nat} {initial : Store} {e e' : Exchange}

/-- Something holds of all servings in a history if it holds of the last notice and of the servings
before. -/
theorem served_cons {P : Question → Nat → Bool → List Notice → Prop} {notice : Notice}
    {history : List Notice} (hnew : ∀ q time b, notice = .served q time b → P q time b history)
    (hold : ∀ later q time b earlier, history = later ++ .served q time b :: earlier → P q time b earlier) :
    ∀ later q time b earlier, notice :: history = later ++ .served q time b :: earlier →
      P q time b earlier := by
  intro later q time b earlier heq
  cases later with
  | nil =>
    obtain ⟨hnotice, rfl⟩ := List.cons.inj heq
    exact hnew q time b hnotice
  | cons _ later => exact hold later q time b earlier (List.cons.inj heq).2

/-! ### The order of the questions -/

/-- Questions are numbered as they are sent, and the server carries them out in that order. -/
structure InOrder (e : Exchange) : Prop where
  sent : ∀ q, .sent q ∈ e.history → q.number < e.begun
  underway : ∀ q ∈ e.underway, .sent q ∈ e.history
  served : ∀ q time b, .served q time b ∈ e.history → .sent q ∈ e.history
  ordered : e.underway.Pairwise fun q q' => q.number < q'.number
  reached : ∀ q, .sent q ∈ e.history → q ∈ e.underway ∨ ∃ time b, .served q time b ∈ e.history
  before : ∀ later q time b earlier, e.history = later ++ .served q time b :: earlier →
    ∀ q', .sent q' ∈ earlier → q'.number < q.number → ∃ time' b', .served q' time' b' ∈ earlier

/-- What a client is told has no part in the order. -/
theorem InOrder.told (ho : e.InOrder) {q : Question} {time : Nat} {r : Except StoreError Bool}
    (hbegun : e'.begun = e.begun) (hunderway : e'.underway = e.underway)
    (hhistory : e'.history = .told q time r :: e.history) : e'.InOrder := by
  refine ⟨fun q' hq' => ?_, fun q' hq' => ?_, fun q' time' b hq' => ?_, hunderway ▸ ho.ordered,
    fun q' hq' => ?_, ?_⟩
  all_goals rw [hhistory] at *
  · exact hbegun ▸ ho.sent q' ((List.mem_cons.1 hq').resolve_left nofun)
  · exact .tail _ (ho.underway q' (hunderway ▸ hq'))
  · exact .tail _ (ho.served q' time' b ((List.mem_cons.1 hq').resolve_left nofun))
  · refine (ho.reached q' ((List.mem_cons.1 hq').resolve_left nofun)).imp (fun h => hunderway ▸ h) ?_
    exact fun ⟨time', b, hserved⟩ => ⟨time', b, .tail _ hserved⟩
  · exact served_cons (fun _ _ _ h => nomatch h) ho.before

theorem InOrder.step (h : Step window patience e e') (ho : e.InOrder) : e'.InOrder := by
  cases h with
  | @sends store now begun waiting underway replies history id =>
    obtain ⟨hsent, hunderway, hserved, hordered, hreached, hbefore⟩ := ho
    refine ⟨fun q hq => ?_, fun q hq => ?_, fun q time b hq => ?_, ?_, fun q hq => ?_, ?_⟩
    · obtain heq | hq := List.mem_cons.1 hq
      · cases heq
        exact Nat.lt_succ_self _
      · exact Nat.lt_succ_of_lt (hsent q hq)
    · obtain hq | hq := List.mem_append.1 hq
      · exact .tail _ (hunderway q hq)
      · exact List.mem_singleton.1 hq ▸ .head _
    · exact .tail _ (hserved q time b ((List.mem_cons.1 hq).resolve_left nofun))
    · refine List.pairwise_append.2 ⟨hordered, List.pairwise_singleton .., fun q hq q' hq' => ?_⟩
      rw [List.mem_singleton.1 hq']
      exact hsent q (hunderway q hq)
    · obtain heq | hq := List.mem_cons.1 hq
      · cases heq
        exact .inl (List.mem_append_right _ (List.mem_singleton_self _))
      · exact (hreached q hq).imp (List.mem_append_left _) fun ⟨time, b, h⟩ => ⟨time, b, .tail _ h⟩
    · exact served_cons (fun _ _ _ h => nomatch h) hbefore
  | @serves store now begun waiting underway replies history store' q b h =>
    obtain ⟨hsent, hunderway, hserved, hordered, hreached, hbefore⟩ := ho
    rw [List.pairwise_cons] at hordered
    refine ⟨fun q' hq' => ?_, fun q' hq' => ?_, fun q' time b' hq' => ?_, hordered.2, fun q' hq' => ?_, ?_⟩
    · exact hsent q' ((List.mem_cons.1 hq').resolve_left nofun)
    · exact .tail _ (hunderway q' (.tail _ hq'))
    · obtain heq | hq' := List.mem_cons.1 hq'
      · cases heq
        exact .tail _ (hunderway q (.head _))
      · exact .tail _ (hserved q' time b' hq')
    · obtain hq' | ⟨time, b', h⟩ := hreached q' ((List.mem_cons.1 hq').resolve_left nofun)
      · obtain rfl | hq' := List.mem_cons.1 hq'
        · exact .inr ⟨now, b, .head _⟩
        · exact .inl hq'
      · exact .inr ⟨time, b', .tail _ h⟩
    · refine served_cons (fun q₁ time b₁ heq q' hq' hlt => ?_) hbefore
      cases heq
      -- Those that are still underway come later.
      refine (hreached q' hq').resolve_left fun hstill => ?_
      obtain rfl | hstill := List.mem_cons.1 hstill
      · exact absurd hlt (Nat.lt_irrefl _)
      · exact absurd hlt (Nat.not_lt.2 (Nat.le_of_lt (hordered.1 q' hstill)))
  | hears q reply left right left' right' h => exact ho.told rfl rfl rfl
  | givesUp q left right h => exact ho.told rfl rfl rfl
  | waits nanos => exact ⟨ho.sent, ho.underway, ho.served, ho.ordered, ho.reached, ho.before⟩

/-! ### The records of the server -/

/-- The server goes by its records, and its records by what it has let through. -/
structure Guarded (window : Duration) (initial : Store) (e : Exchange) : Prop where
  kept : Kept window initial e.store fun id => passes id e.history
  served : ∀ later q time b earlier, e.history = later ++ .served q time b :: earlier →
    (b = true ↔ (∀ time' ∈ passes q.id earlier, time' + windowNanos window ≤ time) ∧
      (passes q.id earlier = [] → initial.isSet time (key q.id) = false))

theorem Guarded.step (h : Step window patience e e') (hg : Guarded window initial e) :
    Guarded window initial e' := by
  obtain ⟨hkept, hserved⟩ := hg
  cases h with
  | @serves store now begun waiting underway replies history store' q b h =>
    have hset := hkept.isSet_iff q.id now
    obtain ⟨hb, hkept'⟩ := hkept.set h fun id => passes_served id q now b history
    refine ⟨hkept', served_cons (fun q₁ time b₁ heq => ?_) hserved⟩
    cases heq
    rw [hb, Bool.not_eq_true', ← Bool.not_eq_true, hset, not_or, not_and, Bool.not_eq_true]
    simp only [not_exists, not_and, Nat.not_lt]
  | sends id => exact ⟨hkept, served_cons (fun _ _ _ h => nomatch h) hserved⟩
  | hears q reply left right left' right' h => exact ⟨hkept, served_cons (fun _ _ _ h => nomatch h) hserved⟩
  | givesUp q left right h => exact ⟨hkept, served_cons (fun _ _ _ h => nomatch h) hserved⟩
  | waits nanos => exact ⟨hkept, hserved⟩

/-! ### What the clients are told -/

/-- A reply is on its way that says what the server has done. -/
def Replies (e : Exchange) (q : Question) (reply : Reply) : Prop :=
  ∃ time b, time ≤ e.now ∧ reply = .ofSet b ∧ .served q time b ∈ e.history

/-- A result is a timeout, or it says what the server had done by a time. -/
def Tells (e : Exchange) (q : Question) (time : Nat) (r : Except StoreError Bool) : Prop :=
  r = .error .timeout ∨ ∃ time' b, time' ≤ time ∧ r = .ok b ∧ .served q time' b ∈ e.history

/-- Clients are told what the server has done, or of a timeout. -/
structure Truthful (e : Exchange) : Prop where
  replies : ∀ q reply, (q, reply) ∈ e.replies → e.Replies q reply
  told : ∀ q time r, .told q time r ∈ e.history → e.Tells q time r

/-- Replies and results stay true as long as those that are new are. -/
theorem Truthful.mono (ht : e.Truthful) (hnow : e.now ≤ e'.now)
    (hhistory : ∀ n ∈ e.history, n ∈ e'.history)
    (hreplies : ∀ q reply, (q, reply) ∈ e'.replies → (q, reply) ∈ e.replies ∨ e'.Replies q reply)
    (htold : ∀ q time r, .told q time r ∈ e'.history → .told q time r ∈ e.history ∨ e'.Tells q time r) :
    e'.Truthful := by
  refine ⟨fun q reply hreply => ?_, fun q time r hr => ?_⟩
  · obtain hold | hnew := hreplies q reply hreply
    · obtain ⟨time, b, htime, hb, hserved⟩ := ht.replies q reply hold
      exact ⟨time, b, Nat.le_trans htime hnow, hb, hhistory _ hserved⟩
    · exact hnew
  · obtain hold | hnew := htold q time r hr
    · exact (ht.told q time r hold).imp_right fun ⟨time', b, htime, hb, hserved⟩ =>
        ⟨time', b, htime, hb, hhistory _ hserved⟩
    · exact hnew

theorem Truthful.step (h : Step window patience e e') (ht : e.Truthful) : e'.Truthful := by
  cases h with
  | sends id =>
    exact ht.mono (Nat.le_refl _) (fun _ h => .tail _ h) (fun _ _ h => .inl h)
      fun _ _ _ h => .inl ((List.mem_cons.1 h).resolve_left nofun)
  | @serves store now begun waiting underway replies history store' q b h =>
    refine ht.mono (Nat.le_refl _) (fun _ h => .tail _ h) (fun q' reply hreply => ?_)
      fun _ _ _ h => .inl ((List.mem_cons.1 h).resolve_left nofun)
    obtain heq | hold := List.mem_cons.1 hreply
    · cases heq
      exact .inr ⟨now, b, Nat.le_refl _, rfl, .head _⟩
    · exact .inl hold
  | @hears store now begun underway history q reply left right left' right' h =>
    refine ht.mono (Nat.le_refl _) (fun _ h => .tail _ h) (fun q' reply' hreply => .inl ?_)
      fun q' time r hr => ?_
    · exact (List.mem_append.1 hreply).elim (List.mem_append_left _) fun hright =>
        List.mem_append_right _ (.tail _ hright)
    · obtain heq | hold := List.mem_cons.1 hr
      · cases heq
        obtain ⟨time, b, htime, rfl, hserved⟩ := ht.replies q reply (by simp)
        exact .inr (.inr ⟨time, b, htime, resultOf_ofSet window q.id b, .tail _ hserved⟩)
      · exact .inl hold
  | givesUp q left right h =>
    refine ht.mono (Nat.le_refl _) (fun _ h => .tail _ h) (fun _ _ h => .inl h) fun q' time r hr => ?_
    obtain heq | hold := List.mem_cons.1 hr
    · cases heq
      exact .inr (.inl rfl)
    · exact .inl hold
  | waits nanos =>
    exact ht.mono (Nat.le_add_right ..) (fun _ h => h) (fun _ _ h => .inl h) fun _ _ _ h => .inl h

/-! ### Runs -/

variable {store : Store} {now : Nat}

theorem Run.inOrder (h : Run window patience (start store now) e) : e.InOrder := by
  induction h with
  | refl => exact ⟨by simp [start], by simp [start], by simp [start], .nil, by simp [start], by simp [start]⟩
  | tail _ hstep ih => exact ih.step hstep

theorem Run.guarded (h : Run window patience (start store now) e) : Guarded window store e := by
  induction h with
  | refl => exact ⟨⟨fun _ => rfl, fun _ => .nil⟩, by simp [start]⟩
  | tail _ hstep ih => exact ih.step hstep

theorem Run.truthful (h : Run window patience (start store now) e) : e.Truthful := by
  induction h with
  | refl => exact ⟨by simp [start], by simp [start]⟩
  | tail _ hstep ih => exact ih.step hstep

/-- A client that gives up can have let its job through, so that the next one is told that it did not get
through. -/
theorem exists_run_late (window : Duration) (patience : Nat) (store : Store) (now : Nat) (id : String)
    (hnone : store.isSet (now + patience) (key id) = false)
    (hlimit : now + patience + windowNanos window < Store.clockLimit * Time.nanosPerSecond) :
    ∃ e, Run window patience (start store now) e ∧ e.history = [
      .told ⟨1, id, now + patience⟩ (now + patience) (.ok false),
      .served ⟨1, id, now + patience⟩ (now + patience) false,
      .served ⟨0, id, now⟩ (now + patience) true,
      .sent ⟨1, id, now + patience⟩,
      .told ⟨0, id, now⟩ (now + patience) (.error .timeout),
      .sent ⟨0, id, now⟩] := by
  obtain ⟨first, hfirst⟩ := Store.exists_run_set store (key id) mark hlimit
  rw [hnone, Bool.not_false] at hfirst
  have hset : first.isSet (now + patience) (key id) = true := by
    rw [Store.isSet, (Store.set_eq hfirst).2, if_pos rfl, Keyspace.get_put_self, Option.any_some,
      decide_eq_true_iff]
    exact Nat.lt_add_of_pos_right (windowNanos_pos window)
  obtain ⟨second, hsecond⟩ := Store.exists_run_set first (key id) mark hlimit
  rw [hset, Bool.not_true] at hsecond
  refine ⟨_, .tail (.tail (.tail (.tail (.tail (.tail (.single (.sends id)) (.waits patience))
    (.givesUp ⟨0, id, now⟩ [] [] (Nat.le_refl _))) (.sends id)) (.serves ⟨0, id, now⟩ true hfirst))
    (.serves ⟨1, id, now + patience⟩ false hsecond))
    (.hears ⟨1, id, now + patience⟩ (.ofSet false) [] [] [] _ (Nat.le_add_right ..)), rfl⟩

/-- A job gets through if its earlier questions ended in errors: whenever the client of a question hears
from the server, and all that asked for the job before were told of errors, it is told that the job got
through. -/
def FailsClosed (window : Duration) (patience : Nat) (store : Store) (now : Nat) : Prop :=
  ∀ e, Run window patience (start store now) e → ∀ later q time b earlier,
    e.history = later ++ .told q time (.ok b) :: earlier →
    (∀ q', .sent q' ∈ earlier → q'.id = q.id → q'.number ≠ q.number →
      ∃ time' error, .told q' time' (.error error) ∈ earlier) →
    b = true

/-- The gate goes by what the server has done, whatever the clients were told. A result is a timeout, or it
is what the server came to after all the questions that were sent before. The server lets a job through
exactly if the window is over since it last did so, or if it never did and had no record of the job from the
start; and the client for which it last did so can have been told of a timeout. A delivery that is told of an
error fails and hands nothing to processing, and one whose job does not get through is skipped. -/
theorem goes_by_server (window : Duration) (patience : Nat) (store : Store) (now : Nat) :
    (∀ e, Run window patience (start store now) e →
      (∀ q time r, .told q time r ∈ e.history → e.Tells q time r) ∧
      ∀ later q time b earlier, e.history = later ++ .served q time b :: earlier →
        (b = true ↔ (∀ time' ∈ passes q.id earlier, time' + windowNanos window ≤ time) ∧
          (passes q.id earlier = [] → store.isSet time (key q.id) = false)) ∧
        ∀ q', .sent q' ∈ earlier → q'.number < q.number → ∃ time' b', .served q' time' b' ∈ earlier) ∧
    (∀ id, store.isSet (now + patience) (key id) = false →
      now + patience + windowNanos window < Store.clockLimit * Time.nanosPerSecond →
      ∃ e, Run window patience (start store now) e ∧ e.history = [
        .told ⟨1, id, now + patience⟩ (now + patience) (.ok false),
        .served ⟨1, id, now + patience⟩ (now + patience) false,
        .served ⟨0, id, now⟩ (now + patience) true,
        .sent ⟨1, id, now + patience⟩,
        .told ⟨0, id, now⟩ (now + patience) (.error .timeout),
        .sent ⟨0, id, now⟩]) ∧
    ∀ (consumer : Consumer) (job : Job) (deeds : List Deed) (outcome : Outcome),
      (consumer.handle job).Leads deeds (.done outcome) →
      (∀ error, ⟨consumer.asks job, .error error⟩ ∈ deeds →
        outcome = .failure (.store error) ∧ (ConsumerError.store error).isRetryable = true ∧
          ∀ d ∈ deeds, d.e.isProcess = false) ∧
      (⟨consumer.asks job, .ok false⟩ ∈ deeds → outcome = .skipped) := by
  refine ⟨fun e h => ⟨(Run.truthful h).told, fun later q time b earlier heq =>
      ⟨(Run.guarded h).served later q time b earlier heq, (Run.inOrder h).before later q time b earlier heq⟩⟩,
    fun id hnone hlimit => exists_run_late window patience store now id hnone hlimit,
    fun consumer job deeds outcome hleads => ⟨fun error hasks => ?_, fun hasks => ?_⟩⟩
  · obtain ⟨houtcome, hprocess⟩ := Consumer.handle_refused hleads hasks
    exact ⟨houtcome, rfl, hprocess⟩
  · exact Consumer.handle_skipped hleads hasks

/-- A question is given up after a second and carried out afterwards, and the next one, still within the
window of a minute, does not get its job through. -/
theorem sample_not_failsClosed : ¬FailsClosed (.ofSeconds 60) Time.nanosPerSecond .empty 0 := by
  intro h
  obtain ⟨e, hrun, hhistory⟩ :=
    exists_run_late (.ofSeconds 60) Time.nanosPerSecond .empty 0 "j1" rfl (by decide)
  refine Bool.false_ne_true (h e hrun [] _ _ _ _ hhistory fun q hsent hid hnumber => ?_)
  simp only [List.mem_cons, List.not_mem_nil, or_false, reduceCtorEq, false_or, Notice.sent.injEq] at hsent
  obtain rfl | rfl := hsent
  · exact absurd rfl hnumber
  · exact ⟨0 + Time.nanosPerSecond, .timeout, by simp⟩

/-- The first one got its job through, although its client was told of a timeout. -/
theorem sample_told_late :
    ∃ e, Run (.ofSeconds 60) Time.nanosPerSecond (start .empty 0) e ∧
      .told ⟨0, "j1", 0⟩ Time.nanosPerSecond (.error .timeout) ∈ e.history ∧
      .told ⟨1, "j1", Time.nanosPerSecond⟩ Time.nanosPerSecond (.ok false) ∈ e.history ∧
      ∃ time, .served ⟨0, "j1", 0⟩ time true ∈ e.history := by
  obtain ⟨-, hlate, -⟩ := goes_by_server (.ofSeconds 60) Time.nanosPerSecond .empty 0
  obtain ⟨e, hrun, hhistory⟩ := hlate "j1" rfl (by decide)
  refine ⟨e, hrun, ?_⟩
  rw [hhistory]
  simp

end Exchange

end Dedup

end JobQueue
