import JobQueue.Proofs.Interleaving

/-! Calls that run alone: what the program of a call does in a world at once, its call does in a scene
step by step. -/

namespace JobQueue

variable {C : Clients}

/-- What a program does in a world as the call of a number, the last event first. -/
def Program.events (n : Nat) (op : C.Op) : Program C.Reply → World → List (Event C)
  | done _, _ => []
  | panic _, _ => []
  | step e next, world =>
    match world.perform e with
    | (after, .ok a) => (next a).events n op after ++ [.did n op world.elapsed world.wall e a]
    | (_, .error _) => []

theorem Program.exists_did_of_mem_events {n : Nat} {op : C.Op} {event : Event C} {p : Program C.Reply}
    {world : World} (h : event ∈ p.events n op world) :
    ∃ time wall e a, event = .did n op time wall e a := by
  induction p generalizing world with
  | done => cases h
  | panic => cases h
  | step e next ih =>
    rw [events] at h
    split at h
    next after a _ =>
      obtain hlater | hfirst := List.mem_append.1 h
      · exact ih a hlater
      · exact ⟨_, _, e, a, List.mem_singleton.1 hfirst⟩
    next => cases h

namespace Scene

variable {K : Conditions} {world world' : World} {calls : List (Call C)} {hands : List C.Thing}
  {begun n : Nat} {history : List (Event C)} {op : C.Op} {reply : C.Reply}

/-- An effect that the world performs is a step of its call. -/
theorem step_of_perform (left right : List (Call C)) {e : Effect} {next : e.Answer → Program C.Reply}
    {a : e.Answer} (h : world.perform e = (world', .ok a)) :
    Step K ⟨world, left ++ ⟨n, op, .step e next⟩ :: right, hands, begun, history⟩
      ⟨world', left ++ ⟨n, op, next a⟩ :: right, hands, begun,
        .did n op world.elapsed world.wall e a :: history⟩ := by
  have happened : Happens K.failing world e _ _ := .performed e
  rw [h] at happened
  exact .acts n op e next a left right happened

/-- A call does what its program does in the world. -/
theorem run_acts (left right : List (Call C)) {p : Program C.Reply}
    (hrun : p.run world = (world', .ok reply)) :
    Run K ⟨world, left ++ ⟨n, op, p⟩ :: right, hands, begun, history⟩
      ⟨world', left ++ ⟨n, op, .done reply⟩ :: right, hands, begun, p.events n op world ++ history⟩ := by
  induction p generalizing world history with
  | done a =>
    cases hrun
    exact .refl
  | panic p => cases hrun
  | step e next ih =>
    rw [Program.run] at hrun
    rw [Program.events]
    cases hperform : world.perform e with
    | mk after r =>
      rw [hperform] at hrun
      cases r with
      | error p => cases hrun
      | ok a =>
        rw [List.append_assoc]
        exact .head (step_of_perform left right hperform) (ih a hrun)

/-- An operation that needs nothing runs from its beginning to its end. -/
theorem run_alone (hneeds : C.needs op = none) (hrun : (C.program op).run world = (world', .ok reply)) :
    Run K ⟨world, calls, hands, begun, history⟩
      ⟨world', calls, (C.gains op reply).toList ++ hands, begun + 1,
        .ended begun op reply :: (C.program op).events begun op world ++ .began begun op :: history⟩ :=
  .head (.begins op hneeds) ((run_acts [] calls hrun).tail (.ends begun op reply [] calls))

/-- All that begins while an operation runs alone is the operation itself. -/
theorem began_of_run_alone {m : Nat} {op' : C.Op}
    (h : .began m op' ∈
      .ended begun op reply :: (C.program op).events begun op world ++ .began begun op :: history) :
    .began m op' ∈ history ∨ (m = begun ∧ op' = op) := by
  obtain hdid | hbegan := List.mem_append.1 ((List.mem_cons.1 h).resolve_left nofun)
  · obtain ⟨_, _, _, _, heq⟩ := Program.exists_did_of_mem_events hdid
    cases heq
  · obtain heq | hold := List.mem_cons.1 hbegan
    · cases heq
      exact .inr ⟨rfl, rfl⟩
    · exact .inl hold

/-- An operation on a thing in hand runs from its beginning to its end. -/
theorem run_taking {thing : C.Thing} (hneeds : C.needs op = some thing)
    (hrun : (C.program op).run world = (world', .ok reply)) :
    Run K ⟨world, calls, thing :: hands, begun, history⟩
      ⟨world', calls, (C.gains op reply).toList ++ hands, begun + 1,
        .ended begun op reply :: (C.program op).events begun op world ++ .began begun op :: history⟩ :=
  .head (.takes op thing [] hands hneeds)
    ((run_acts [] calls hrun).tail (.ends begun op reply [] calls))

/-- The scene after an operation that runs from its beginning to its end, if it comes to one. -/
def alone (s : Scene C) (op : C.Op) : Scene C :=
  match (C.program op).run s.world with
  | (world, .ok reply) => ⟨world, s.calls, (C.gains op reply).toList ++ s.hands, s.begun + 1,
      .ended s.begun op reply :: (C.program op).events s.begun op s.world ++ .began s.begun op :: s.history⟩
  | (_, .error _) => s

theorem run_of_alone {s : Scene C} (hneeds : C.needs op = none) : Run K s (s.alone op) := by
  unfold alone
  split
  next world' reply hrun => exact run_alone hneeds hrun
  next => exact .refl

/-- An operation that runs alone begins and ends once, unless it comes to no end. -/
theorem history_alone (s : Scene C) (op : C.Op) : s.alone op = s ∨ ∃ reply,
    .ended s.begun op reply ∈ (s.alone op).history ∧ s.history ⊆ (s.alone op).history ∧
    ∀ m op', .began m op' ∈ (s.alone op).history → .began m op' ∈ s.history ∨ (m = s.begun ∧ op' = op) := by
  unfold alone
  split
  next world reply _ =>
    exact .inr ⟨reply, .head _, fun event h => .tail _ (List.mem_append_right _ (.tail _ h)),
      fun m op' hbegan => began_of_run_alone hbegan⟩
  next => exact .inl rfl

/-- Operations that need nothing make a run one after another. -/
theorem run_of_all_alone {ops : List C.Op} {s : Scene C} (hneeds : ∀ op ∈ ops, C.needs op = none) :
    Run K s (ops.foldl alone s) := by
  induction ops generalizing s with
  | nil => exact .refl
  | cons op ops ih =>
    obtain ⟨hop, hops⟩ := List.forall_mem_cons.1 hneeds
    exact (run_of_alone hop).trans (ih hops)

/-- Only the operations that run have begun. -/
theorem began_of_all_alone {ops : List C.Op} {s : Scene C} {m : Nat}
    (h : .began m op ∈ (ops.foldl alone s).history) : .began m op ∈ s.history ∨ op ∈ ops := by
  induction ops generalizing s with
  | nil => exact .inl h
  | cons op' ops ih =>
    obtain hbegan | hmem := ih h
    · obtain hsame | ⟨reply, -, -, hnew⟩ := history_alone s op'
      · rw [hsame] at hbegan
        exact .inl hbegan
      · obtain hold | ⟨-, rfl⟩ := hnew m op hbegan
        · exact .inl hold
        · exact .inr (.head _)
    · exact .inr (.tail _ hmem)

end Scene

end JobQueue
