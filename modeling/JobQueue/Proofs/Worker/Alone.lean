import JobQueue.Proofs.Solo
import JobQueue.Proofs.Worker.Deliveries

/-! A worker that is alone with its queue: what it does can be evaluated turn by turn, and every evaluation
is a run. -/

namespace JobQueue

/-- What a worker that is alone does next. -/
inductive WorkerTurn where
  /-- A call that needs nothing. -/
  | calls (op : WorkerOp)
  /-- What is in hand is handled or settled. -/
  | serves
  | waits (nanos : Nat)

/-- What a worker does with a thing in hand. -/
def WorkerThing.op : WorkerThing → WorkerOp
  | delivery reserved => .handle reserved
  | handled reserved outcome => .settle reserved outcome

theorem WorkerThing.needs_op (thing : WorkerThing) : thing.op.needs = some thing := by
  cases thing <;> rfl

namespace Consumer

open Scene

variable {consumer : Consumer} {s s' : Scene consumer.workers}

/-- A call from its beginning to its end, if it comes to one. -/
def perform (s : Scene consumer.workers) (op : WorkerOp) (hands : List WorkerThing) :
    Option (Scene consumer.workers) :=
  match (op.program consumer).run s.world with
  | (world, .ok reply) => some ⟨world, s.calls, (op.gains reply).toList ++ hands, s.begun + 1,
      .ended s.begun op reply ::
        Program.events (C := consumer.workers) s.begun op (op.program consumer) s.world ++
        .began s.begun op :: s.history⟩
  | (_, .error _) => none

/-- The scene after a turn, if the turn can be taken. -/
def turn (s : Scene consumer.workers) : WorkerTurn → Option (Scene consumer.workers)
  | .calls op => if op.needs.isNone then perform s op s.hands else none
  | .serves =>
    match s.hands with
    | thing :: hands => perform s thing.op hands
    | [] => none
  | .waits nanos => some { s with world := s.world.advance nanos }

theorem exists_of_perform {op : WorkerOp} {hands : List WorkerThing} (h : perform s op hands = some s') :
    ∃ world reply, (op.program consumer).run s.world = (world, .ok reply) ∧
      s' = ⟨world, s.calls, (op.gains reply).toList ++ hands, s.begun + 1, .ended s.begun op reply ::
        Program.events (C := consumer.workers) s.begun op (op.program consumer) s.world ++
        .began s.begun op :: s.history⟩ := by
  unfold perform at h
  split at h
  next world reply hrun => exact ⟨world, reply, hrun, (Option.some.inj h).symm⟩
  next => cases h

theorem run_of_turn {t : WorkerTurn} (h : turn s t = some s') : Run .reliable s s' := by
  obtain ⟨world, calls, hands, begun, history⟩ := s
  cases t with
  | calls op =>
    rw [turn] at h
    split at h
    next hneeds =>
      obtain ⟨world', reply, hrun, rfl⟩ := exists_of_perform h
      exact run_alone (C := consumer.workers) (Option.isNone_iff_eq_none.1 hneeds) hrun
    next => cases h
  | serves =>
    cases hands with
    | nil => cases h
    | cons thing hands =>
      obtain ⟨world', reply, hrun, rfl⟩ := exists_of_perform h
      exact run_taking (C := consumer.workers) thing.needs_op hrun
  | waits nanos =>
    cases h
    exact .single (.drifts (.mk _ nanos _ trivial))

/-- A worker that takes its turns makes a run. -/
theorem run_of_turns {turns : List WorkerTurn} (h : turns.foldlM turn s = some s') :
    Run .reliable s s' := by
  induction turns generalizing s with
  | nil =>
    cases h
    exact .refl
  | cons t turns ih =>
    obtain ⟨s₁, hturn, hturns⟩ := Option.bind_eq_some_iff.1 h
    exact (run_of_turn hturn).trans (ih hturns)

end Consumer

end JobQueue
