import JobQueue.Proofs.Store.Commands
import JobQueue.Proofs.Trace

/-! Runs in which every command to the store of the jobs is answered, and what the clock has shown to the
calls of a run. -/

namespace JobQueue

/-! ### Answered commands -/

namespace Client.Answers

variable {now : Nat} {client : Client} {c : Command}

/-- Every command still reaches the store after a command. -/
theorem run_fst (h : client.Answers) : (client.run now c).1.Answers := by
  obtain ⟨hrefused, hstalled⟩ := h c.verb
  simp only [Client.run, hstalled, hrefused, Bool.false_eq_true, if_false]
  cases client.store.run now c <;> exact h

theorem run_snd (h : client.Answers) {r : c.Result} (hr : (client.run now c).2 = .ok r) :
    ∃ a, r = .ok a := by
  obtain ⟨hrefused, hstalled⟩ := h c.verb
  simp only [Client.run, hstalled, hrefused, Bool.false_eq_true, if_false] at hr
  cases hrun : client.store.run now c with
  | error p =>
    rw [hrun] at hr
    cases hr
  | ok result =>
    rw [hrun] at hr
    cases hr
    exact ⟨_, rfl⟩

end Client.Answers

/-- An effect that is not a command to the store of the jobs, or one that was answered. -/
def Deed.IsAnswered (d : Deed) : Prop :=
  ∀ c error, d ≠ ⟨.command .jobs c, .error error⟩

namespace Happens

variable {failing : Prop} {world world' : World} {e : Effect}

theorem answers {r : Except Panic e.Answer} (h : Happens failing world e world' r)
    (hanswers : world.jobs.Answers) : world'.jobs.Answers := by
  cases h with
  | failed => exact hanswers
  | performed =>
    cases e with
    | command site c =>
      cases site with
      | jobs => exact hanswers.run_fst
      | deadLetters =>
        simp only [World.perform, World.setClient, World.client]
        cases world.deadLetters with
        | some client => exact hanswers
        | none => exact hanswers.run_fst
    | clock | process | count => exact hanswers

theorem isAnswered {a : e.Answer} (h : Happens failing world e world' (.ok a)) (hfailing : ¬failing)
    (hanswers : world.jobs.Answers) : (⟨e, a⟩ : Deed).IsAnswered := by
  intro c error heq
  cases heq
  generalize hr : Except.ok (Except.error error) = r at h
  cases h with
  | failed _ _ _ hfails => exact hfailing hfails
  | performed =>
    obtain ⟨a, ha⟩ := hanswers.run_snd hr.symm
    cases ha

end Happens

/-! ### Runs -/

namespace Scene

variable {C : Clients} {K : Conditions}

/-- Every command to the store of the jobs was answered, and so will be the next ones. -/
structure Answered (s : Scene C) : Prop where
  client : s.world.jobs.Answers
  did : ∀ n op time wall e a, .did n op time wall e a ∈ s.history → (⟨e, a⟩ : Deed).IsAnswered

theorem Answered.step {s s' : Scene C} (hK : ¬K.failing) (h : Step K s s') (hs : s.Answered) :
    s'.Answered := by
  cases h with
  | acts n op e next a left right h =>
    refine ⟨h.answers hs.client, fun n' op' time wall e' a' hmem => ?_⟩
    obtain heq | hold := List.mem_cons.1 hmem
    · cases heq
      exact h.isAnswered hK hs.client
    · exact hs.did _ _ _ _ _ _ hold
  | breaks n op e next p left right h => exact ⟨h.answers hs.client, hs.did⟩
  | drifts h =>
    cases h
    exact ⟨hs.client, hs.did⟩
  | _ =>
    exact ⟨hs.client, fun _ _ _ _ _ _ hmem =>
      hs.did _ _ _ _ _ _ ((List.mem_cons.1 hmem).resolve_left nofun)⟩

theorem Reachable.answered {world : World} {s : Scene C} (h : Reachable K world s) (hK : ¬K.failing)
    (hanswers : world.jobs.Answers) : s.Answered := by
  induction h with
  | refl => exact ⟨hanswers, fun _ _ _ _ _ _ hmem => by simp [start] at hmem⟩
  | tail _ hstep ih => exact ih.step hK hstep

/-- All commands that a call has sent to the store of the jobs were answered. -/
theorem Reachable.answered_deeds {world : World} {s : Scene C} (h : Reachable K world s) (hK : ¬K.failing)
    (hanswers : world.jobs.Answers) (n : Nat) : ∀ d ∈ deeds n s.history, d.IsAnswered := fun d hd => by
  obtain ⟨op, time, wall, hdid⟩ := exists_of_mem_deeds hd
  exact (h.answered hK hanswers).did _ _ _ _ _ _ hdid

/-- A call that has read the clock did so when the clock showed what it read. -/
theorem Reachable.exists_reading {world : World} {s : Scene C} (h : Reachable K world s) {n : Nat} {op : C.Op}
    (hbegan : .began n op ∈ s.history) {reading : Int} (hread : ⟨.clock, reading⟩ ∈ deeds n s.history) :
    ∃ time, .did n op time reading .clock reading ∈ s.history := by
  obtain ⟨op', time, wall, hdid⟩ := exists_of_mem_deeds hread
  obtain rfl := (h.tracked.began n op hbegan).2 op' (h.tracked.did _ _ _ _ _ _ hdid)
  obtain ⟨later, earlier, hhistory⟩ := List.append_of_mem hdid
  obtain ⟨before, after, -, hstep, rfl, hafter⟩ := exists_step_of_history h hhistory
  cases hstep with
  | acts m op' e next a left right happened =>
    obtain ⟨hevent, -⟩ := List.cons.inj hafter
    cases hevent
    obtain ⟨rfl, -⟩ := happened.clock
    exact ⟨_, hdid⟩
  | breaks | drifts => exact absurd hafter.symm (List.cons_ne_self _ _)
  | _ => cases hafter

end Scene

end JobQueue
