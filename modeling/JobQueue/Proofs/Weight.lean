import JobQueue.Proofs.View
import Mathlib.Algebra.Ring.Int.Defs

/-! Weights of what is done. The weights of the deeds of a program that has ended add up to the same total on
all of its ways, and what all that has happened weighs is what its calls weigh. Where a deed weighs what it
adds to the world, this says how far the world has come. -/

namespace JobQueue

/-! ### Programs -/

namespace Program

variable {α β : Type} {w : Deed → ℤ} {m n : ℤ}

/-- On every way to a reply, the weights of the deeds of a program add up to a total. -/
def Weighs (w : Deed → ℤ) : ℤ → Program α → Prop
  | total, done _ => total = 0
  | _, panic _ => True
  | total, step e next => ∀ a, (next a).Weighs w (total - w ⟨e, a⟩)

theorem weighs_done (a : α) : (done a).Weighs w 0 := rfl

theorem Weighs.of_eq {p : Program α} (hp : p.Weighs w m) (h : m = n) : p.Weighs w n :=
  h ▸ hp

theorem Weighs.bind {f : α → Program β} (hf : ∀ a, (f a).Weighs w n) :
    {p : Program α} → {m : ℤ} → p.Weighs w m → (p.bind f).Weighs w (m + n)
  | .done a, m, hp => by
    obtain rfl : m = 0 := hp
    rw [zero_add]
    exact hf a
  | .panic _, _, _ => trivial
  | .step e next, m, hp => fun a => by
    rw [add_sub_right_comm]
    exact Weighs.bind hf (hp a)

theorem Leads.sum_eq {p : Program α} {deeds : List Deed} {a : α} (h : p.Leads deeds (.done a))
    (hp : p.Weighs w m) : (deeds.map w).sum = m := by
  suffices hway : ∀ {q}, p.Leads deeds q → q.Weighs w (m - (deeds.map w).sum) from
    (sub_eq_zero.1 (hway h)).symm
  clear h
  intro q h
  induction h with
  | refl =>
    rw [List.map_nil, List.sum_nil, sub_zero]
    exact hp
  | step a _ ih =>
    rw [List.map_cons, List.sum_cons, add_comm, ← sub_sub]
    exact ih a

end Program

/-! ### Histories -/

variable {C : Clients}

/-- What the deed of an event weighs. -/
def Event.weight (w : Deed → ℤ) : Event C → ℤ
  | .did _ _ _ _ e a => w ⟨e, a⟩
  | _ => 0

namespace Scene

/-- What all that has happened weighs. -/
def total (w : Deed → ℤ) (history : List (Event C)) : ℤ :=
  (history.map (Event.weight w)).sum

theorem total_cons (w : Deed → ℤ) (event : Event C) (history : List (Event C)) :
    total w (event :: history) = event.weight w + total w history := by
  rw [total, List.map_cons, List.sum_cons, total]

theorem total_add (v w : Deed → ℤ) (history : List (Event C)) :
    total (fun d => v d + w d) history = total v history + total w history := by
  induction history with
  | nil => rfl
  | cons event history ih =>
    rw [total_cons, total_cons, total_cons, ih]
    cases event <;> simp only [Event.weight] <;> omega

theorem total_sub (v w : Deed → ℤ) (history : List (Event C)) :
    total (fun d => v d - w d) history = total v history - total w history := by
  induction history with
  | nil => rfl
  | cons event history ih =>
    rw [total_cons, total_cons, total_cons, ih]
    cases event <;> simp only [Event.weight] <;> omega

/-- What holds of deeds of a kind is counted. -/
theorem total_toNat (p : Deed → Bool) (history : List (Event C)) :
    total (fun d => (p d).toNat) history = history.countP (Event.does fun _ d => p d) := by
  induction history with
  | nil => rfl
  | cons event history ih =>
    rw [total_cons, ih, List.countP_cons]
    cases event with
    | did n op time wall e a => cases hp : p ⟨e, a⟩ <;> simp [Event.weight, Event.does, hp, add_comm]
    | _ => simp [Event.weight, Event.does]

theorem total_eventsOf (w : Deed → ℤ) (n : Nat) (history : List (Event C)) :
    total w (eventsOf n history) = ((deeds n history).map w).sum := by
  induction history with
  | nil => rfl
  | cons event history ih =>
    rw [eventsOf_cons]
    cases event with
    | did m op time wall e a =>
      by_cases hm : m = n
      · subst hm
        rw [deeds_did_self, Event.number, if_pos rfl, total_cons, ih, List.map_cons, List.sum_cons]
        rfl
      · rw [deeds_did_of_ne _ _ hm, Event.number, if_neg hm, ih]
    | _ =>
      split
      · rw [total_cons, ih]
        exact zero_add _
      · exact ih

variable {K : Conditions} {world : World} {s : Scene C}

/-- Where the deeds of each call cancel out, so does all that has happened. -/
theorem Reachable.total_eq_zero (h : Reachable K world s) {w : Deed → ℤ}
    (hcalls : ∀ n op, .began n op ∈ s.history → ((deeds n s.history).map w).sum = 0) :
    total w s.history = 0 := by
  have hnumbers : ∀ event ∈ s.history, event.number ∈ Finset.range s.begun := by
    refine fun event hevent => Finset.mem_range.2 (Nat.lt_of_not_le fun hle => ?_)
    have hmem := mem_eventsOf.2 ⟨hevent, rfl⟩
    rw [h.once.fresh _ hle] at hmem
    cases hmem
  rw [total, sum_eq_sum_eventsOf _ hnumbers]
  refine Finset.sum_eq_zero fun n hn => ?_
  obtain ⟨op, -, hbegan, -⟩ := h.tracked.past n (Finset.mem_range.1 hn)
  exact (total_eventsOf w n s.history).trans (hcalls n op hbegan)

/-- A list in the world has grown by what deeds have put there. -/
theorem Reachable.grown (h : Reachable K world s) {P : Effect → Prop} {β : Type} {view : World → List β}
    {adds : Deed → Option β} (hview : World.Shows P view adds) (heach : ∀ op, (C.program op).Each P)
    (p : β → Bool) :
    ((view s.world).countP p - (view world).countP p : ℤ) =
      total (fun d => ((adds d).any p).toNat) s.history := by
  rw [h.shows hview heach, List.countP_append, countP_shown, total_toNat]
  push_cast
  omega

end Scene

end JobQueue
