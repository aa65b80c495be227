import JobQueue.Proofs.Queue.Stage

/-! Runs of the clients of a queue, told by the stages of their calls. Every run over programs is such
a run, so that invariants need only look at the moves of the stages. -/

namespace JobQueue

/-- A call on a queue and the stage at which it stands. -/
structure QueueCall where
  number : Nat
  op : QueueOp
  stage : QueueStage

/-- A scene of a queue in which the stages of all calls are known. -/
structure QueueScene (config : QueueConfig) where
  world : World
  calls : List QueueCall
  hands : List ReservedJob
  begun : Nat
  history : List (Event config.clients)

variable {config : QueueConfig}

/-- The call as a program. -/
def QueueCall.call (config : QueueConfig) (c : QueueCall) : Call config.clients :=
  ⟨c.number, c.op, c.stage.program config⟩

namespace QueueScene

def scene (t : QueueScene config) : Scene config.clients :=
  ⟨t.world, t.calls.map (QueueCall.call config), t.hands, t.begun, t.history⟩

abbrev store (t : QueueScene config) : Store := t.world.jobs.store

/-- One step of a call or of the surroundings. No effect of a queue panics. -/
inductive Step (K : Conditions) : QueueScene config → QueueScene config → Prop where
  | begins {world calls hands begun history} (op : QueueOp) (h : op.needs = none) :
      Step K ⟨world, calls, hands, begun, history⟩
        ⟨world, ⟨begun, op, .start config op⟩ :: calls, hands, begun + 1, .began begun op :: history⟩
  | takes {world calls begun history} (op : QueueOp) (reserved : ReservedJob) (left right)
      (h : op.needs = some reserved) :
      Step K ⟨world, calls, left ++ reserved :: right, begun, history⟩
        ⟨world, ⟨begun, op, .start config op⟩ :: calls, left ++ right, begun + 1,
          .began begun op :: history⟩
  | acts {world hands begun history world'} (n : Nat) (op : QueueOp) (stage stage' : QueueStage)
      (e : Effect) (a : e.Answer) (left right) (h : Happens K.failing world e world' (.ok a))
      (move : stage.Move config world e a world'.jobs.store stage') :
      Step K ⟨world, left ++ ⟨n, op, stage⟩ :: right, hands, begun, history⟩
        ⟨world', left ++ ⟨n, op, stage'⟩ :: right, hands, begun,
          .did n op world.elapsed world.wall e a :: history⟩
  | ends {world hands begun history} (n : Nat) (op : QueueOp) (result : QueueOp.Result) (left right) :
      Step K ⟨world, left ++ ⟨n, op, .done result⟩ :: right, hands, begun, history⟩
        ⟨world, left ++ right, (op.gains result).toList ++ hands, begun,
          .ended n op result :: history⟩
  | panics {world hands begun history} (n : Nat) (op : QueueOp) (p : Panic) (left right) :
      Step K ⟨world, left ++ ⟨n, op, .broken p⟩ :: right, hands, begun, history⟩
        ⟨world, left ++ right, hands, begun, .panicked n op p :: history⟩
  | abandons {world hands begun history} (c : QueueCall) (left right) :
      Step K ⟨world, left ++ c :: right, hands, begun, history⟩
        ⟨world, left ++ right, hands, begun, .abandoned c.number c.op :: history⟩
  | drifts {world calls hands begun history world'} (h : World.Drifts K world world') :
      Step K ⟨world, calls, hands, begun, history⟩ ⟨world', calls, hands, begun, history⟩

abbrev Run (K : Conditions) : QueueScene config → QueueScene config → Prop :=
  Relation.ReflTransGen (Step K)

/-- The call in the middle of some calls, and those around it. -/
theorem exists_of_map_eq {calls : List QueueCall} {left right : List (Call config.clients)}
    {call : Call config.clients} (h : calls.map (QueueCall.call config) = left ++ call :: right) :
    ∃ left' c right', calls = left' ++ c :: right' ∧ left'.map (QueueCall.call config) = left ∧
      c.call config = call ∧ right'.map (QueueCall.call config) = right := by
  obtain ⟨left', rest, rfl, hleft, hrest⟩ := List.map_eq_append_iff.1 h
  obtain ⟨c, right', rfl, hc, hright⟩ := List.map_eq_cons_iff.1 hrest
  exact ⟨left', c, right', rfl, hleft, hc, hright⟩

/-- Every step over programs is one over stages. -/
theorem step_scene {K : Conditions} {t : QueueScene config} {s : Scene config.clients}
    (h : Scene.Step K t.scene s) : ∃ t' : QueueScene config, t'.scene = s ∧ Step K t t' := by
  obtain ⟨world, calls, hands, begun, history⟩ := t
  generalize hs : scene ⟨world, calls, hands, begun, history⟩ = s₀ at h
  cases h with
  | begins op h =>
    cases hs
    exact ⟨_, by simp [scene, QueueCall.call, QueueStage.program_start], .begins op h⟩
  | takes op thing left right h =>
    cases hs
    exact ⟨_, by simp [scene, QueueCall.call, QueueStage.program_start], .takes op thing left right h⟩
  | acts n op e next a left right h =>
    simp only [scene, Scene.mk.injEq] at hs
    obtain ⟨rfl, hcalls, rfl, rfl, rfl⟩ := hs
    obtain ⟨left', ⟨_, _, stage⟩, right', rfl, rfl, hc, rfl⟩ := exists_of_map_eq hcalls
    simp only [QueueCall.call, Call.mk.injEq] at hc
    obtain ⟨rfl, rfl, hc⟩ := hc
    obtain ⟨stage', hnext, move⟩ := QueueStage.exists_move config hc h
    refine ⟨_, ?_, .acts _ _ stage stage' e a left' right' h move⟩
    simp [scene, QueueCall.call, hnext]
  | breaks n op e next p left right h =>
    simp only [scene, Scene.mk.injEq] at hs
    obtain ⟨left', c, right', rfl, rfl, hc, rfl⟩ := exists_of_map_eq hs.2.1
    simp only [QueueCall.call, Call.mk.injEq] at hc
    exact absurd h (QueueStage.not_happens_error config (QueueStage.effect?_eq config hc.2.2))
  | ends n op reply left right =>
    simp only [scene, Scene.mk.injEq] at hs
    obtain ⟨rfl, hcalls, rfl, rfl, rfl⟩ := hs
    obtain ⟨left', ⟨_, _, stage⟩, right', rfl, rfl, hc, rfl⟩ := exists_of_map_eq hcalls
    simp only [QueueCall.call, Call.mk.injEq] at hc
    obtain ⟨rfl, rfl, hc⟩ := hc
    obtain rfl := (QueueStage.program_eq_done config).1 hc
    exact ⟨_, by simp [scene], .ends _ _ reply left' right'⟩
  | panics n op p left right =>
    simp only [scene, Scene.mk.injEq] at hs
    obtain ⟨rfl, hcalls, rfl, rfl, rfl⟩ := hs
    obtain ⟨left', ⟨_, _, stage⟩, right', rfl, rfl, hc, rfl⟩ := exists_of_map_eq hcalls
    simp only [QueueCall.call, Call.mk.injEq] at hc
    obtain ⟨rfl, rfl, hc⟩ := hc
    obtain rfl := (QueueStage.program_eq_panic config).1 hc
    exact ⟨_, by simp [scene], .panics _ _ p left' right'⟩
  | abandons call left right =>
    simp only [scene, Scene.mk.injEq] at hs
    obtain ⟨rfl, hcalls, rfl, rfl, rfl⟩ := hs
    obtain ⟨left', c, right', rfl, rfl, rfl, rfl⟩ := exists_of_map_eq hcalls
    exact ⟨_, by simp [scene, QueueCall.call], .abandons c left' right'⟩
  | drifts h =>
    cases hs
    exact ⟨_, rfl, .drifts h⟩

/-- Every step over stages is one over programs. -/
theorem Step.scene {K : Conditions} {t t' : QueueScene config} (h : Step K t t') :
    Scene.Step K t.scene t'.scene := by
  cases h with
  | begins op h =>
    simp only [QueueScene.scene, List.map_cons, QueueCall.call, ← QueueStage.program_start]
    exact Scene.Step.begins (C := config.clients) op h
  | takes op reserved left right h =>
    simp only [QueueScene.scene, List.map_cons, QueueCall.call, ← QueueStage.program_start]
    exact Scene.Step.takes (C := config.clients) op reserved left right h
  | acts n op stage stage' e a left right h move =>
    obtain ⟨next, hprogram, hnext⟩ := move.exists_next
    simp only [QueueScene.scene, List.map_append, List.map_cons, QueueCall.call, hprogram, ← hnext]
    exact Scene.Step.acts (C := config.clients) n op e next a _ _ h
  | ends n op result left right =>
    simp only [QueueScene.scene, List.map_append, List.map_cons]
    exact Scene.Step.ends (C := config.clients) n op result _ _
  | panics n op p left right =>
    simp only [QueueScene.scene, List.map_append, List.map_cons]
    exact Scene.Step.panics (C := config.clients) n op p _ _
  | abandons c left right =>
    simp only [QueueScene.scene, List.map_append, List.map_cons]
    exact .abandons (c.call config) _ _
  | drifts h => exact .drifts h

theorem Run.scene {K : Conditions} {t t' : QueueScene config} (h : Run K t t') :
    Scene.Run K t.scene t'.scene := by
  induction h with
  | refl => exact .refl
  | tail _ hstep ih => exact ih.tail hstep.scene

theorem Step.begun_le {K : Conditions} {t t' : QueueScene config} (h : Step K t t') :
    t.begun ≤ t'.begun := by
  cases h <;> first | exact Nat.le_refl _ | exact Nat.le_succ _

/-- A call after a step was there before, or it has just begun, or it has made the step. -/
theorem Step.of_mem_calls {K : Conditions} {t t' : QueueScene config} (h : Step K t t') {c : QueueCall}
    (hc : c ∈ t'.calls) :
    c ∈ t.calls ∨
    (c = ⟨t.begun, c.op, .start config c.op⟩ ∧ t'.begun = t.begun + 1 ∧
      ∀ reserved, c.op.needs = some reserved → reserved ∈ t.hands) ∨
    ∃ stage e, ∃ a : e.Answer, ⟨c.number, c.op, stage⟩ ∈ t.calls ∧
      Happens K.failing t.world e t'.world (.ok a) ∧
      stage.Move config t.world e a t'.store c.stage ∧
      t'.history = .did c.number c.op t.world.elapsed t.world.wall e a :: t.history := by
  cases h with
  | begins op h =>
    obtain rfl | hc := List.mem_cons.1 hc
    · exact .inr (.inl ⟨rfl, rfl, fun _ hneeds => by cases h.symm.trans hneeds⟩)
    · exact .inl hc
  | takes op reserved left right h =>
    obtain rfl | hc := List.mem_cons.1 hc
    · refine .inr (.inl ⟨rfl, rfl, fun reserved' hneeds => ?_⟩)
      obtain rfl : reserved = reserved' := Option.some.inj (h.symm.trans hneeds)
      simp
    · exact .inl hc
  | acts n op stage stage' e a left right h move =>
    simp only [List.mem_append, List.mem_cons] at hc ⊢
    obtain hc | rfl | hc := hc
    · exact .inl (.inl hc)
    · exact .inr (.inr ⟨stage, e, a, .inr (.inl rfl), h, move, rfl⟩)
    · exact .inl (.inr (.inr hc))
  | ends | panics | abandons =>
    simp only [List.mem_append, List.mem_cons] at hc ⊢
    exact .inl (hc.imp_right .inr)
  | drifts h => exact .inl hc

/-- Nothing has happened to a queue yet. -/
def start (config : QueueConfig) (world : World) : QueueScene config :=
  ⟨world, [], [], 0, []⟩

/-- What can be reached over programs can be reached over stages. -/
theorem exists_run {K : Conditions} {world : World} {s : Scene config.clients}
    (h : Scene.Reachable K world s) :
    ∃ t : QueueScene config, t.scene = s ∧ Run K (start config world) t := by
  induction h with
  | refl => exact ⟨start config world, rfl, .refl⟩
  | tail _ hstep ih =>
    obtain ⟨t, rfl, hrun⟩ := ih
    obtain ⟨t', rfl, hstaged⟩ := step_scene hstep
    exact ⟨t', rfl, hrun.tail hstaged⟩

/-! Histories. -/

section

variable {K : Conditions} {t t' : QueueScene config}

/-- A step adds at most one event. -/
theorem Step.history (h : Step K t t') :
    t'.history = t.history ∨ ∃ event, t'.history = event :: t.history := by
  cases h with
  | drifts => exact .inl rfl
  | _ => exact .inr ⟨_, rfl⟩

/-- For every event there was a step that added it. -/
theorem exists_step_of_history {world : World} {later earlier : List (Event config.clients)}
    {event : Event config.clients} (h : Run K (start config world) t)
    (hhistory : t.history = later ++ event :: earlier) :
    ∃ before after, Run K (start config world) before ∧ Step K before after ∧
      before.history = earlier ∧ after.history = event :: earlier ∧ Run K after t := by
  induction h generalizing later with
  | refl => simp [start] at hhistory
  | @tail s t hrun hstep ih =>
    obtain hsame | ⟨last, hlast⟩ := hstep.history
    · obtain ⟨before, after, hbefore, hadds, hearlier, hevent, hafter⟩ := ih (hsame ▸ hhistory)
      exact ⟨before, after, hbefore, hadds, hearlier, hevent, hafter.tail hstep⟩
    · rw [hlast] at hhistory
      cases later with
      | nil =>
        obtain ⟨rfl, rfl⟩ := List.cons.inj hhistory
        exact ⟨s, t, hrun, hstep, rfl, hlast, .refl⟩
      | cons newest later =>
        obtain ⟨before, after, hbefore, hadds, hearlier, hevent, hafter⟩ := ih (List.cons.inj hhistory).2
        exact ⟨before, after, hbefore, hadds, hearlier, hevent, hafter.tail hstep⟩

/-- Calls are numbered as they begin. -/
theorem Run.number_lt {world : World} (h : Run K (start config world) t) :
    ∀ c ∈ t.calls, c.number < t.begun := by
  induction h with
  | refl => simp [start]
  | tail _ hstep ih =>
    intro c hc
    have hle := hstep.begun_le
    obtain hold | ⟨hnew, hbegun, -⟩ | ⟨stage, e, a, hold, -⟩ := hstep.of_mem_calls hc
    · exact Nat.lt_of_lt_of_le (ih c hold) hle
    · rw [hnew, hbegun]
      exact Nat.lt_succ_self _
    · exact Nat.lt_of_lt_of_le (ih ⟨c.number, c.op, stage⟩ hold) hle

end

end QueueScene

end JobQueue
