import JobQueue.Proofs.Trace
import Mathlib.Algebra.BigOperators.Group.Finset.Piecewise
import Mathlib.Algebra.GroupWithZero.Nat
import Mathlib.Algebra.Order.BigOperators.Group.Finset

/-! Counting what has happened. Every event is one of a single call, and a call is over once, so that what
holds of the events of each call adds up over a history. -/

namespace JobQueue

/-! ### Kinds of events -/

namespace Event

variable {C : Clients}

/-- The number of the call of an event. -/
def number : Event C → Nat
  | .began n _ => n
  | .did n .. => n
  | .ended n .. => n
  | .panicked n .. => n
  | .abandoned n _ => n

/-- An operation of a kind has begun. -/
def begins (B : C.Op → Bool) : Event C → Bool
  | .began _ op => B op
  | _ => false

/-- An operation has done something of a kind. -/
def does (P : C.Op → Deed → Bool) : Event C → Bool
  | .did _ op _ _ e a => P op ⟨e, a⟩
  | _ => false

/-- An operation has ended with a reply of a kind. -/
def ends (R : C.Op → C.Reply → Bool) : Event C → Bool
  | .ended _ op reply => R op reply
  | _ => false

theorem countP_does_cons (P : C.Op → Deed → Bool) (n : Nat) (op : C.Op) (time : Nat) (wall : Int)
    (e : Effect) (a : e.Answer) (history : List (Event C)) :
    (Event.did n op time wall e a :: history).countP (Event.does P) =
      history.countP (Event.does P) + (P op ⟨e, a⟩).toNat := by
  rw [List.countP_cons]
  cases hP : P op ⟨e, a⟩ <;> simp [Event.does, hP]

/-- What is done is done by operations of a kind or by others. -/
theorem countP_does_split (B : C.Op → Bool) (P : C.Op → Deed → Bool) (history : List (Event C)) :
    history.countP (Event.does P) = history.countP (Event.does fun op d => B op && P op d) +
      history.countP (Event.does fun op d => !B op && P op d) := by
  induction history with
  | nil => rfl
  | cons event history ih =>
    cases event with
    | did n op time wall e a =>
      rw [countP_does_cons, countP_does_cons, countP_does_cons, ih]
      cases B op <;> simp <;> omega
    | _ => simpa [Event.does] using ih

end Event

/-! ### How often a program does something -/

namespace Program

variable {α β : Type} {P : Deed → Bool} {m n : Nat}

/-- On every way, a program does something of a kind at most so many times. -/
def AtMost (P : Deed → Bool) (n : Nat) (p : Program α) : Prop :=
  ∀ deeds q, p.Leads deeds q → deeds.countP P ≤ n

theorem AtMost.of_each {p : Program α} (h : p.Each fun e => ∀ a, P ⟨e, a⟩ = false) : p.AtMost P n := by
  intro deeds q hleads
  have hnone : deeds.countP P = 0 := by
    refine List.countP_eq_zero.2 fun d hd => Bool.eq_false_iff.1 ?_
    exact (hleads.each h).2 d hd d.a
  rw [hnone]
  exact Nat.zero_le n

theorem AtMost.bind {p : Program α} {f : α → Program β} (hp : p.AtMost P m)
    (hf : ∀ a, (f a).AtMost P n) : (p.bind f).AtMost P (m + n) := by
  intro deeds q hleads
  obtain ⟨q', hq', -⟩ | ⟨a, later, earlier, rfl, hearlier, hlater⟩ := leads_bind hleads
  · exact Nat.le_trans (hp deeds q' hq') (Nat.le_add_right ..)
  · rw [List.countP_append, Nat.add_comm]
    exact Nat.add_le_add (hp _ _ hearlier) (hf a _ _ hlater)

theorem AtMost.step {e : Effect} {next : e.Answer → Program α} (he : ∀ a, (P ⟨e, a⟩).toNat ≤ m)
    (hnext : ∀ a, (next a).AtMost P n) : (Program.step e next).AtMost P (m + n) := by
  intro deeds q hleads
  obtain ⟨rfl, -⟩ | ⟨a, later, rfl, hlater⟩ := leads_step hleads
  · exact Nat.zero_le _
  · have hfirst : List.countP P [⟨e, a⟩] = (P ⟨e, a⟩).toNat := by
      rw [List.countP_singleton]
      cases P ⟨e, a⟩ <;> rfl
    rw [List.countP_append, hfirst, Nat.add_comm]
    exact Nat.add_le_add (he a) (hnext a _ _ hlater)

theorem atMost_done (a : α) : (done a).AtMost P n :=
  AtMost.of_each trivial

theorem atMost_panic (p : Panic) : (panic p : Program α).AtMost P n :=
  AtMost.of_each trivial

end Program

namespace Scene

variable {C : Clients}

/-! ### The events of a call -/

/-- What has happened to a call, the last event first. -/
def eventsOf (n : Nat) (history : List (Event C)) : List (Event C) :=
  history.filter (·.number == n)

theorem mem_eventsOf {n : Nat} {event : Event C} {history : List (Event C)} :
    event ∈ eventsOf n history ↔ event ∈ history ∧ event.number = n := by
  simp [eventsOf]

theorem eventsOf_cons (n : Nat) (event : Event C) (history : List (Event C)) :
    eventsOf n (event :: history) =
      if event.number = n then event :: eventsOf n history else eventsOf n history := by
  simp [eventsOf, List.filter_cons]

/-- A sum over a history is the sum of those over its calls. -/
theorem sum_eq_sum_eventsOf {M : Type} [AddCommMonoid M] (weight : Event C → M)
    {history : List (Event C)} {numbers : Finset Nat}
    (hnumbers : ∀ event ∈ history, event.number ∈ numbers) :
    (history.map weight).sum = ∑ n ∈ numbers, ((eventsOf n history).map weight).sum := by
  induction history with
  | nil => simp [eventsOf]
  | cons event history ih =>
    obtain ⟨hevent, hhistory⟩ := List.forall_mem_cons.1 hnumbers
    have hsplit : ∀ n ∈ numbers, ((eventsOf n (event :: history)).map weight).sum =
        (if event.number = n then weight event else 0) + ((eventsOf n history).map weight).sum := by
      intro n _
      rw [eventsOf_cons]
      split <;> simp
    rw [List.map_cons, List.sum_cons, ih hhistory, Finset.sum_congr rfl hsplit, Finset.sum_add_distrib,
      Finset.sum_ite_eq, if_pos hevent]

/-- What is at most as much for every call is at most as much over a history. -/
theorem sum_le_of_calls {history : List (Event C)} {v w : Event C → Nat}
    (h : ∀ n, ((eventsOf n history).map v).sum ≤ ((eventsOf n history).map w).sum) :
    (history.map v).sum ≤ (history.map w).sum := by
  have hnumbers : ∀ event ∈ history, event.number ∈ (history.map Event.number).toFinset := by
    intro event hevent
    rw [List.mem_toFinset]
    exact List.mem_map_of_mem hevent
  rw [sum_eq_sum_eventsOf v hnumbers, sum_eq_sum_eventsOf w hnumbers]
  exact Finset.sum_le_sum fun n _ => h n

theorem sum_eq_of_calls {history : List (Event C)} {v w : Event C → Nat}
    (h : ∀ n, ((eventsOf n history).map v).sum = ((eventsOf n history).map w).sum) :
    (history.map v).sum = (history.map w).sum :=
  Nat.le_antisymm (sum_le_of_calls fun n => Nat.le_of_eq (h n))
    (sum_le_of_calls fun n => Nat.le_of_eq (h n).symm)

theorem countP_eq_sum (p : Event C → Bool) (history : List (Event C)) :
    history.countP p = (history.map fun event => if p event then 1 else 0).sum := by
  induction history with
  | nil => rfl
  | cons event history ih => rw [List.countP_cons, ih, List.map_cons, List.sum_cons, Nat.add_comm]

theorem countP_le_of_calls {history : List (Event C)} {p q : Event C → Bool}
    (h : ∀ n, (eventsOf n history).countP p ≤ (eventsOf n history).countP q) :
    history.countP p ≤ history.countP q := by
  simp only [countP_eq_sum] at h ⊢
  exact sum_le_of_calls h

/-- The deeds of a call are events of its operation. -/
theorem countP_eventsOf_does (P : C.Op → Deed → Bool) {n : Nat} {op : C.Op} {history : List (Event C)}
    (hop : ∀ op' time wall e a, .did n op' time wall e a ∈ history → op' = op) :
    (eventsOf n history).countP (Event.does P) = (deeds n history).countP (P op) := by
  induction history with
  | nil => rfl
  | cons event history ih =>
    have ih := ih fun op' time wall e a hdid => hop op' time wall e a (.tail _ hdid)
    rw [eventsOf_cons]
    cases event with
    | did m op' time wall e a =>
      by_cases hm : m = n
      · subst hm
        obtain rfl := hop op' time wall e a (.head _)
        rw [deeds_did_self, Event.number, if_pos rfl, List.countP_cons, List.countP_cons, ih]
        rfl
      · rw [deeds_did_of_ne _ _ hm, Event.number, if_neg hm, ih]
    | _ =>
      split
      · rw [List.countP_cons, ih]
        rfl
      · exact ih

/-! ### Calls are over once -/

/-- No call is over twice, and none that has something left to do is over. -/
structure Once (s : Scene C) : Prop where
  most : ∀ n, (eventsOf n s.history).countP isOver ≤ 1
  call : ∀ c ∈ s.calls, (eventsOf c.number s.history).countP isOver = 0
  fresh : ∀ n, s.begun ≤ n → eventsOf n s.history = []

/-- An event that does not end a call changes nothing of this. -/
theorem countP_isOver_cons (event : Event C) (hevent : isOver event = false) (n : Nat)
    (history : List (Event C)) :
    (eventsOf n (event :: history)).countP isOver = (eventsOf n history).countP isOver := by
  rw [eventsOf_cons]
  split
  · rw [List.countP_cons_of_neg (by simp [hevent])]
  · rfl

section

variable {world world' : World} {calls left right : List (Call C)} {hands hands' : List C.Thing}
  {begun : Nat} {history : List (Event C)}

theorem Once.begins (hs : Once ⟨world, calls, hands, begun, history⟩) (op : C.Op) :
    Once ⟨world, ⟨begun, op, C.program op⟩ :: calls, hands', begun + 1, .began begun op :: history⟩ := by
  have hsame := fun n => countP_isOver_cons (.began begun op) rfl n history
  refine ⟨fun n => ?_, fun c hc => ?_, fun n hn => ?_⟩
  · rw [hsame]
    exact hs.most n
  · rw [hsame]
    obtain rfl | hc := List.mem_cons.1 hc
    · rw [hs.fresh begun (Nat.le_refl _)]
      rfl
    · exact hs.call c hc
  · have hne : begun ≠ n := Nat.ne_of_lt hn
    rw [eventsOf_cons, Event.number, if_neg hne]
    exact hs.fresh n (Nat.le_of_succ_le hn)

theorem Once.acts {c : Call C} (hs : Once ⟨world, left ++ c :: right, hands, begun, history⟩)
    (c' : Call C) (hnumber : c'.number = c.number) (hlt : c.number < begun) (event : Event C)
    (hevent : isOver event = false) (hof : event.number = c.number) :
    Once ⟨world', left ++ c' :: right, hands, begun, event :: history⟩ := by
  have hsame := fun n => countP_isOver_cons event hevent n history
  refine ⟨fun n => ?_, fun d hd => ?_, fun n hn => ?_⟩
  · rw [hsame]
    exact hs.most n
  · rw [hsame]
    simp only [List.mem_append, List.mem_cons] at hd
    obtain hd | rfl | hd := hd
    · exact hs.call d (by simp [hd])
    · rw [hnumber]
      exact hs.call c (by simp)
    · exact hs.call d (by simp [hd])
  · have hne : event.number ≠ n := by
      rw [hof]
      exact Nat.ne_of_lt (Nat.lt_of_lt_of_le hlt hn)
    rw [eventsOf_cons, if_neg hne]
    exact hs.fresh n hn

/-- The call that is over is none of the others. -/
theorem Once.leaves {c : Call C} (hs : Once ⟨world, left ++ c :: right, hands, begun, history⟩)
    (hothers : ∀ d ∈ left ++ right, d.number ≠ c.number) (hlt : c.number < begun) {event : Event C}
    (hof : event.number = c.number) :
    Once ⟨world, left ++ right, hands', begun, event :: history⟩ := by
  refine ⟨fun n => ?_, fun d hd => ?_, fun n hn => ?_⟩
  · rw [eventsOf_cons]
    split
    next heq =>
      rw [List.countP_cons, ← heq, hof, hs.call c (by simp)]
      split <;> omega
    next => exact hs.most n
  · have hne : event.number ≠ d.number := by
      rw [hof]
      exact (hothers d hd).symm
    rw [eventsOf_cons, if_neg hne]
    simp only [List.mem_append] at hd
    exact hs.call d (by simp only [List.mem_append, List.mem_cons]; exact hd.imp_right .inr)
  · have hne : event.number ≠ n := by
      rw [hof]
      exact Nat.ne_of_lt (Nat.lt_of_lt_of_le hlt hn)
    rw [eventsOf_cons, if_neg hne]
    exact hs.fresh n hn

end

theorem Once.step {K : Conditions} {s s' : Scene C} (h : Step K s s') (ht : s.Tracked) (hs : s.Once) :
    s'.Once := by
  have hlt : ∀ c ∈ s.calls, c.number < s.begun := fun c hc => (ht.began _ _ (ht.call c hc).1).1
  cases h with
  | begins op h => exact hs.begins op
  | takes op thing left right h => exact hs.begins op
  | acts n op e next a left right h => exact hs.acts ⟨n, op, next a⟩ rfl (hlt ⟨n, op, .step e next⟩ (by simp)) _ rfl rfl
  | breaks n op e next p left right h =>
    refine ⟨hs.most, fun c hc => ?_, hs.fresh⟩
    simp only [List.mem_append, List.mem_cons] at hc
    obtain hc | rfl | hc := hc
    · exact hs.call c (by simp [hc])
    · exact hs.call ⟨n, op, .step e next⟩ (by simp)
    · exact hs.call c (by simp [hc])
  | ends n op reply left right => exact hs.leaves ht.around.1 (hlt _ (by simp)) rfl
  | panics n op p left right => exact hs.leaves ht.around.1 (hlt _ (by simp)) rfl
  | abandons c left right => exact hs.leaves ht.around.1 (hlt _ (by simp)) rfl
  | drifts h => exact ⟨hs.most, hs.call, hs.fresh⟩

section

variable {K : Conditions} {world : World} {s : Scene C}

theorem Reachable.once (h : Reachable K world s) : s.Once := by
  induction h with
  | refl => exact ⟨fun _ => Nat.zero_le _, by simp [start], fun _ _ => rfl⟩
  | tail hrun hstep ih => exact ih.step hstep (Reachable.tracked hrun)

/-! ### What adds up over the calls -/

/-- The deeds of a call that has begun. -/
theorem Tracked.countP_does (ht : s.Tracked) (P : C.Op → Deed → Bool) {n : Nat} {op : C.Op}
    (hbegan : .began n op ∈ s.history) :
    (eventsOf n s.history).countP (Event.does P) = (deeds n s.history).countP (P op) :=
  countP_eventsOf_does P fun _ _ _ _ _ hdid => (ht.began n op hbegan).2 _ (ht.did _ _ _ _ _ _ hdid)

/-- A call ends once at most. -/
theorem Once.countP_ends_le (hs : s.Once) {R : C.Op → C.Reply → Bool} {n bound : Nat}
    (h : ∀ op reply, .ended n op reply ∈ s.history → R op reply = true → 1 ≤ bound) :
    (eventsOf n s.history).countP (Event.ends R) ≤ bound := by
  by_cases hnone : (eventsOf n s.history).countP (Event.ends R) = 0
  · rw [hnone]
    exact Nat.zero_le _
  obtain ⟨event, hevent, hends⟩ := List.countP_pos_iff.1 (Nat.pos_of_ne_zero hnone)
  obtain ⟨hmem, hnumber⟩ := mem_eventsOf.1 hevent
  have hbound : 1 ≤ bound := by
    cases event with
    | ended m op reply =>
      obtain rfl : m = n := hnumber
      exact h op reply hmem hends
    | _ => cases hends
  have hover : (eventsOf n s.history).countP (Event.ends R) ≤ (eventsOf n s.history).countP isOver := by
    refine List.countP_mono_left fun event _ hends => ?_
    cases event with
    | ended => rfl
    | _ => cases hends
  exact Nat.le_trans (Nat.le_trans hover (hs.most n)) hbound

/-- What only the end of a call counts for is counted once. -/
theorem Once.sum_eq (hs : s.Once) (weight : Event C → Nat) {event : Event C}
    (hevent : event ∈ s.history) (hover : isOver event = true)
    (hweight : ∀ event, isOver event = false → weight event = 0) :
    ((eventsOf event.number s.history).map weight).sum = weight event := by
  have honce := hs.most event.number
  obtain ⟨left, right, hsplit⟩ := List.append_of_mem (mem_eventsOf.2 ⟨hevent, rfl⟩)
  have hnone : ∀ events : List (Event C), events.countP isOver = 0 → (events.map weight).sum = 0 := by
    intro events hzero
    refine List.sum_eq_zero fun x hx => ?_
    obtain ⟨other, hother, rfl⟩ := List.mem_map.1 hx
    exact hweight other (Bool.eq_false_iff.2 (List.countP_eq_zero.1 hzero other hother))
  rw [hsplit, List.countP_append, List.countP_cons_of_pos hover] at honce
  rw [hsplit, List.map_append, List.sum_append, List.map_cons, List.sum_cons, hnone left (by omega),
    hnone right (by omega)]
  omega

theorem Reachable.does_le_does (h : Reachable K world s) {P Q : C.Op → Deed → Bool}
    (hway : ∀ op deeds q, (C.program op).Leads deeds q → deeds.countP (P op) ≤ deeds.countP (Q op)) :
    s.history.countP (Event.does P) ≤ s.history.countP (Event.does Q) := by
  refine countP_le_of_calls fun n => ?_
  by_cases hn : n < s.begun
  · obtain ⟨op, q, hbegan, hleads⟩ := h.tracked.past n hn
    rw [h.tracked.countP_does P hbegan, h.tracked.countP_does Q hbegan]
    exact hway op _ q hleads
  · rw [h.once.fresh n (Nat.le_of_not_lt hn)]
    exact Nat.le_refl _

theorem Reachable.does_le_begins (h : Reachable K world s) {P : C.Op → Deed → Bool} {B : C.Op → Bool}
    (hway : ∀ op deeds q, (C.program op).Leads deeds q → deeds.countP (P op) ≤ (B op).toNat) :
    s.history.countP (Event.does P) ≤ s.history.countP (Event.begins B) := by
  refine countP_le_of_calls fun n => ?_
  by_cases hn : n < s.begun
  · obtain ⟨op, q, hbegan, hleads⟩ := h.tracked.past n hn
    rw [h.tracked.countP_does P hbegan]
    refine Nat.le_trans (hway op _ q hleads) ?_
    cases hB : B op with
    | false => exact Nat.zero_le _
    | true => exact List.countP_pos_iff.2 ⟨.began n op, mem_eventsOf.2 ⟨hbegan, rfl⟩, hB⟩
  · rw [h.once.fresh n (Nat.le_of_not_lt hn)]
    exact Nat.zero_le _

theorem Reachable.ends_le_does (h : Reachable K world s) {R : C.Op → C.Reply → Bool}
    {P : C.Op → Deed → Bool}
    (hway : ∀ op deeds reply, (C.program op).Leads deeds (.done reply) → R op reply = true →
      ∃ d ∈ deeds, P op d = true) :
    s.history.countP (Event.ends R) ≤ s.history.countP (Event.does P) := by
  refine countP_le_of_calls fun n => h.once.countP_ends_le fun op reply hended hR => ?_
  obtain ⟨hbegan, hleads, -⟩ := h.tracked.ended n op reply hended
  rw [h.tracked.countP_does P hbegan]
  exact List.countP_pos_iff.2 (hway op _ reply hleads hR)

theorem Reachable.ends_le_begins (h : Reachable K world s) {R : C.Op → C.Reply → Bool} {B : C.Op → Bool}
    (hop : ∀ op reply, R op reply = true → B op = true) :
    s.history.countP (Event.ends R) ≤ s.history.countP (Event.begins B) := by
  refine countP_le_of_calls fun n => h.once.countP_ends_le fun op reply hended hR => ?_
  obtain ⟨hbegan, -, -⟩ := h.tracked.ended n op reply hended
  exact List.countP_pos_iff.2 ⟨.began n op, mem_eventsOf.2 ⟨hbegan, rfl⟩, hop op reply hR⟩

/-- Every thing that was put in hand is still there or was used up once. -/
theorem Reachable.hands_balance (h : Reachable K world s) (p : C.Thing → Bool) :
    s.hands.countP p + s.history.countP (Event.begins fun op => (C.needs op).any p) =
      s.history.countP (Event.ends fun op reply => (C.gains op reply).any p) := by
  induction h with
  | refl => rfl
  | tail _ hstep ih =>
    cases hstep with
    | begins op hneeds => simpa [List.countP_cons, Event.begins, Event.ends, hneeds] using ih
    | takes op thing left right hneeds =>
      simp only [List.countP_cons, List.countP_append, Event.begins, Event.ends, hneeds,
        Option.any_some] at ih ⊢
      simp only [Bool.false_eq_true, if_false]
      omega
    | ends n op reply left right =>
      cases hgains : C.gains op reply with
      | none => simpa [List.countP_cons, Event.begins, Event.ends, hgains] using ih
      | some thing =>
        simp only [List.countP_cons, List.countP_append, Event.begins, Event.ends, hgains,
          Option.any_some, Option.toList_some, List.countP_nil, Bool.false_eq_true, if_false] at ih ⊢
        omega
    | acts | panics | abandons => simpa [List.countP_cons, Event.begins, Event.ends] using ih
    | breaks => exact ih
    | drifts => exact ih

/-- What is used up was put in hand before. -/
theorem Reachable.begins_le_ends (h : Reachable K world s) (p : C.Thing → Bool) :
    s.history.countP (Event.begins fun op => (C.needs op).any p) ≤
      s.history.countP (Event.ends fun op reply => (C.gains op reply).any p) :=
  Nat.le_trans (Nat.le_add_left ..) (Nat.le_of_eq (h.hands_balance p))

end

end Scene

end JobQueue
