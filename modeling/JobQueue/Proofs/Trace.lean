import JobQueue.Proofs.Interleaving

/-! What a call has done so far. However calls take turns, each of them goes its own way through its
program, and that way can be read off the history. -/

namespace JobQueue

/-- An effect that a call had, with its answer. -/
structure Deed where
  e : Effect
  a : e.Answer

/-! ### Ways through programs -/

namespace Program

variable {α β : Type} {P Q : Effect → Prop}

/-- Every effect that a program can have satisfies a predicate. -/
def Each (P : Effect → Prop) : Program α → Prop
  | done _ => True
  | panic _ => True
  | step e next => P e ∧ ∀ a, (next a).Each P

theorem Each.bind {f : α → Program β} : {p : Program α} → p.Each P → (∀ a, (f a).Each P) →
    (p.bind f).Each P
  | .done a, _, hf => hf a
  | .panic _, _, _ => trivial
  | .step _ _, hp, hf => ⟨hp.1, fun a => (hp.2 a).bind hf⟩

theorem Each.mono (h : ∀ e, P e → Q e) : {p : Program α} → p.Each P → p.Each Q
  | .done _, _ => trivial
  | .panic _, _ => trivial
  | .step e _, hp => ⟨h e hp.1, fun a => (hp.2 a).mono h⟩

theorem each_ofExcept (x : Except Panic α) : (ofExcept x).Each P := by
  cases x <;> trivial

/-- Every reply that a program can give satisfies a predicate. -/
def Gives (R : α → Prop) : Program α → Prop
  | done a => R a
  | panic _ => True
  | step _ next => ∀ a, (next a).Gives R

theorem Gives.bind {R : β → Prop} {f : α → Program β} (hf : ∀ a, (f a).Gives R) :
    (p : Program α) → (p.bind f).Gives R
  | .done a => hf a
  | .panic _ => trivial
  | .step _ next => fun a => Gives.bind hf (next a)

/-- Runs a program to its end on anything that performs effects. -/
def runOn {σ : Type} (perform : σ → (e : Effect) → σ × Except Panic e.Answer) :
    Program α → σ → σ × Except Panic α
  | done a, s => (s, .ok a)
  | panic p, s => (s, .error p)
  | step e next, s =>
    match perform s e with
    | (s, .ok a) => (next a).runOn perform s
    | (s, .error p) => (s, .error p)

/-- A program leads to what is left of it after some deeds, the last of which comes first. -/
inductive Leads (p : Program α) : List Deed → Program α → Prop where
  | refl : Leads p [] p
  | step {deeds e next} (a : e.Answer) (h : Leads p deeds (.step e next)) :
      Leads p (⟨e, a⟩ :: deeds) (next a)

theorem Leads.trans {p q r : Program α} {deeds later : List Deed} (h : p.Leads deeds q)
    (h' : q.Leads later r) : p.Leads (later ++ deeds) r := by
  induction h' with
  | refl => exact h
  | step a _ ih => exact ih.step a

theorem Leads.each {p q : Program α} {deeds : List Deed} (h : p.Leads deeds q) (hp : p.Each P) :
    q.Each P ∧ ∀ d ∈ deeds, P d.e := by
  induction h with
  | refl => exact ⟨hp, by simp⟩
  | step a _ ih =>
    obtain ⟨⟨he, hnext⟩, hdeeds⟩ := ih
    exact ⟨hnext a, List.forall_mem_cons.2 ⟨he, hdeeds⟩⟩

theorem Leads.gives {R : α → Prop} {p : Program α} {deeds : List Deed} {a : α}
    (h : p.Leads deeds (.done a)) (hp : p.Gives R) : R a := by
  suffices hway : ∀ {q}, p.Leads deeds q → q.Gives R from hway h
  clear h
  intro q h
  induction h with
  | refl => exact hp
  | step a _ ih => exact ih a

/-- The first deed of a program is its first effect. -/
theorem leads_step {e : Effect} {next : e.Answer → Program α} {deeds : List Deed} {q : Program α}
    (h : (Program.step e next).Leads deeds q) :
    (deeds = [] ∧ q = .step e next) ∨
      ∃ a later, deeds = later ++ [⟨e, a⟩] ∧ (next a).Leads later q := by
  induction h with
  | refl => exact .inl ⟨rfl, rfl⟩
  | step a _ ih =>
    obtain ⟨rfl, hq⟩ | ⟨a', later, rfl, hlater⟩ := ih
    · cases hq
      exact .inr ⟨a, [], rfl, .refl⟩
    · exact .inr ⟨a', _, rfl, .step a hlater⟩

/-- A program that is over has had its first effect. -/
theorem leads_step_done {e : Effect} {next : e.Answer → Program α} {deeds : List Deed} {b : α}
    (h : (Program.step e next).Leads deeds (.done b)) :
    ∃ a later, deeds = later ++ [⟨e, a⟩] ∧ (next a).Leads later (.done b) := by
  obtain ⟨-, heq⟩ | hstep := leads_step h
  · cases heq
  · exact hstep

/-- A program that is over has no deeds. -/
theorem leads_done {a : α} {deeds : List Deed} {q : Program α} (h : (done a).Leads deeds q) :
    deeds = [] ∧ q = done a := by
  induction h with
  | refl => exact ⟨rfl, rfl⟩
  | step b _ ih => cases ih.2

theorem leads_panic {p : Panic} {deeds : List Deed} {q : Program α} (h : (panic p).Leads deeds q) :
    deeds = [] ∧ q = panic p := by
  induction h with
  | refl => exact ⟨rfl, rfl⟩
  | step b _ ih => cases ih.2

/-- One program after another: the second one starts with the reply of the first one. -/
theorem leads_bind {f : α → Program β} {p : Program α} {deeds : List Deed} {q : Program β}
    (h : (p.bind f).Leads deeds q) :
    (∃ q', p.Leads deeds q' ∧ q = q'.bind f) ∨
      ∃ a later earlier, deeds = later ++ earlier ∧ p.Leads earlier (.done a) ∧ (f a).Leads later q := by
  induction h with
  | refl => exact .inl ⟨p, .refl, rfl⟩
  | @step deeds e next a _ ih =>
    obtain ⟨q', hq', heq⟩ | ⟨b, later, earlier, rfl, hb, hlater⟩ := ih
    · cases q' with
      | done b => exact .inr ⟨b, [⟨e, a⟩], deeds, rfl, hq', .step a (heq ▸ .refl)⟩
      | panic => cases heq
      | step e' next' =>
        cases heq
        exact .inl ⟨next' a, .step a hq', rfl⟩
    · exact .inr ⟨b, ⟨e, a⟩ :: later, earlier, rfl, hb, .step a hlater⟩

/-- A program that is over after another one has gone through both. -/
theorem leads_bind_done {f : α → Program β} {p : Program α} {deeds : List Deed} {b : β}
    (h : (p.bind f).Leads deeds (.done b)) :
    ∃ a later earlier, deeds = later ++ earlier ∧ p.Leads earlier (.done a) ∧
      (f a).Leads later (.done b) := by
  obtain ⟨q', hq', heq⟩ | hboth := leads_bind h
  · cases q' with
    | done a => exact ⟨a, [], deeds, rfl, hq', heq ▸ .refl⟩
    | panic | step => cases heq
  · exact hboth

/-- A program that is over has not panicked at its start. -/
theorem leads_ofExcept_bind_done {x : Except Panic α} {f : α → Program β} {deeds : List Deed} {b : β}
    (h : ((ofExcept x).bind f).Leads deeds (.done b)) : ∃ a, x = .ok a ∧ (f a).Leads deeds (.done b) := by
  cases x with
  | ok a => exact ⟨a, rfl, h⟩
  | error p => cases (leads_panic h).2

/-- A program that changes its reply does so at its end only. -/
theorem Leads.of_map {g : α → β} {p : Program α} {deeds : List Deed} {q : Program β}
    (h : (p.bind fun a => .done (g a)).Leads deeds q) :
    ∃ q', p.Leads deeds q' ∧ q = q'.bind fun a => .done (g a) := by
  induction h with
  | refl => exact ⟨p, .refl, rfl⟩
  | step a _ ih =>
    obtain ⟨q', hq', heq⟩ := ih
    cases q' with
    | step e next =>
      cases heq
      exact ⟨next a, .step a hq', rfl⟩
    | done | panic => cases heq

theorem Leads.of_map_done {g : α → β} {p : Program α} {deeds : List Deed} {b : β}
    (h : (p.bind fun a => .done (g a)).Leads deeds (.done b)) :
    ∃ a, p.Leads deeds (.done a) ∧ b = g a := by
  obtain ⟨q', hq', heq⟩ := h.of_map
  cases q' with
  | done a =>
    cases heq
    exact ⟨a, hq', rfl⟩
  | panic | step => cases heq

end Program

/-! ### Ways of calls -/

namespace Scene

variable {C : Clients}

/-- What an event adds to the deeds of a call. -/
def deed? (n : Nat) : Event C → Option Deed
  | .did m _ _ _ e a => if m = n then some ⟨e, a⟩ else none
  | _ => none

/-- The events with which a call is over. -/
def isOver : Event C → Bool
  | .ended .. => true
  | .panicked .. => true
  | .abandoned .. => true
  | _ => false

/-- What a call has done, its last deed first. -/
def deeds (n : Nat) (history : List (Event C)) : List Deed :=
  history.filterMap (deed? n)

section

variable (n m : Nat) (op : C.Op) (history : List (Event C))

@[simp] theorem deeds_began : deeds n (.began m op :: history) = deeds n history := rfl

@[simp] theorem deeds_ended (reply : C.Reply) :
    deeds n (.ended m op reply :: history) = deeds n history := rfl

@[simp] theorem deeds_panicked (p : Panic) :
    deeds n (.panicked m op p :: history) = deeds n history := rfl

@[simp] theorem deeds_abandoned : deeds n (.abandoned m op :: history) = deeds n history := rfl

theorem deeds_did_self (time : Nat) (wall : Int) (e : Effect) (a : e.Answer) :
    deeds n (.did n op time wall e a :: history) = ⟨e, a⟩ :: deeds n history := by
  simp [deeds, deed?]

theorem deeds_did_of_ne {n m : Nat} (h : m ≠ n) (time : Nat) (wall : Int) (e : Effect) (a : e.Answer) :
    deeds n (.did m op time wall e a :: history) = deeds n history := by
  simp [deeds, deed?, h]

end

/-- A deed of a call is an event of the history. -/
theorem exists_of_mem_deeds {n : Nat} {history : List (Event C)} {d : Deed} (h : d ∈ deeds n history) :
    ∃ op time wall, .did n op time wall d.e d.a ∈ history := by
  obtain ⟨event, hevent, hdeed⟩ := List.mem_filterMap.1 h
  cases event with
  | did m op time wall e a =>
    rw [deed?] at hdeed
    split at hdeed
    next heq =>
      cases hdeed
      exact ⟨op, time, wall, heq ▸ hevent⟩
    next => cases hdeed
  | _ => cases hdeed

/-- Calls have numbers of their own, and what a call has done leads to what it has left to do. -/
structure Tracked (s : Scene C) : Prop where
  nodup : (s.calls.map Call.number).Nodup
  began : ∀ n op, .began n op ∈ s.history → n < s.begun ∧ ∀ op', .began n op' ∈ s.history → op' = op
  did : ∀ n op time wall e a, .did n op time wall e a ∈ s.history → .began n op ∈ s.history
  fresh : ∀ n, s.begun ≤ n → deeds n s.history = []
  call : ∀ c ∈ s.calls, .began c.number c.op ∈ s.history ∧ ∃ q,
    (C.program c.op).Leads (deeds c.number s.history) q ∧ (c.rest = q ∨ ∃ p, c.rest = .panic p)
  past : ∀ n < s.begun, ∃ op q, .began n op ∈ s.history ∧
    (C.program op).Leads (deeds n s.history) q
  ended : ∀ n op reply, .ended n op reply ∈ s.history → .began n op ∈ s.history ∧
    (C.program op).Leads (deeds n s.history) (.done reply) ∧ ∀ c ∈ s.calls, c.number ≠ n

theorem tracked_start (world : World) : (start world : Scene C).Tracked where
  nodup := List.nodup_nil
  began := by simp [start]
  did := by simp [start]
  fresh _ _ := rfl
  call := by simp [start]
  past := by simp [start]
  ended := by simp [start]

section

variable {world world' : World} {calls left right : List (Call C)} {hands hands' : List C.Thing}
  {begun : Nat} {history : List (Event C)}

theorem Tracked.begins (ht : Tracked ⟨world, calls, hands, begun, history⟩) (op : C.Op) :
    Tracked ⟨world, ⟨begun, op, C.program op⟩ :: calls, hands', begun + 1, .began begun op :: history⟩ := by
  have hfresh : deeds begun history = [] := ht.fresh begun (Nat.le_refl _)
  refine ⟨?_, fun n op' hbegan => ?_, fun n op' time wall e a hdid => ?_,
    fun n hn => ht.fresh n (Nat.le_of_succ_le hn), fun c hc => ?_, fun n hn => ?_,
    fun n op' reply hended => ?_⟩
  · have hnumber : ∀ c ∈ calls, c.number ≠ begun := fun c hc =>
      Nat.ne_of_lt (ht.began _ _ (ht.call c hc).1).1
    simpa using ⟨hnumber, ht.nodup⟩
  · obtain hnew | hold := List.mem_cons.1 hbegan
    · obtain ⟨rfl, rfl⟩ := Event.began.inj hnew
      refine ⟨Nat.lt_succ_self _, fun op' hbegan' => ?_⟩
      obtain hnew | hold := List.mem_cons.1 hbegan'
      · exact (Event.began.inj hnew).2
      · exact absurd (ht.began _ _ hold).1 (Nat.lt_irrefl _)
    · obtain ⟨hn, hunique⟩ := ht.began n op' hold
      refine ⟨Nat.lt_succ_of_lt hn, fun op'' hbegan' => ?_⟩
      obtain hnew | hold' := List.mem_cons.1 hbegan'
      · exact absurd (Event.began.inj hnew).1 (Nat.ne_of_lt hn)
      · exact hunique op'' hold'
  · exact .tail _ (ht.did n op' time wall e a ((List.mem_cons.1 hdid).resolve_left nofun))
  · obtain rfl | hold := List.mem_cons.1 hc
    · exact ⟨.head _, C.program op, by rw [deeds_began, hfresh]; exact .refl, .inl rfl⟩
    · obtain ⟨hbegan, hleads⟩ := ht.call c hold
      exact ⟨.tail _ hbegan, hleads⟩
  · obtain hn | rfl := Nat.lt_succ_iff_lt_or_eq.1 hn
    · obtain ⟨op', q, hbegan, hleads⟩ := ht.past n hn
      exact ⟨op', q, .tail _ hbegan, hleads⟩
    · exact ⟨op, C.program op, .head _, by rw [deeds_began, hfresh]; exact .refl⟩
  · obtain ⟨hbegan, hleads, hover⟩ := ht.ended n op' reply ((List.mem_cons.1 hended).resolve_left nofun)
    refine ⟨.tail _ hbegan, hleads, List.forall_mem_cons.2 ⟨?_, hover⟩⟩
    exact (Nat.ne_of_lt (ht.began n op' hbegan).1).symm

/-- The calls around a call have other numbers. -/
theorem Tracked.around {c : Call C} (ht : Tracked ⟨world, left ++ c :: right, hands, begun, history⟩) :
    (∀ d ∈ left ++ right, d.number ≠ c.number) ∧ ((left ++ right).map Call.number).Nodup := by
  have hnodup := ht.nodup
  simp only [List.map_append, List.map_cons, List.nodup_append, List.nodup_cons, List.mem_map,
    List.mem_cons, forall_exists_index, and_imp, forall_apply_eq_imp_iff₂] at hnodup ⊢
  grind

theorem Tracked.acts {n : Nat} {op : C.Op} {e : Effect} {next : e.Answer → Program C.Reply}
    (ht : Tracked ⟨world, left ++ ⟨n, op, .step e next⟩ :: right, hands, begun, history⟩) (a : e.Answer) :
    Tracked ⟨world', left ++ ⟨n, op, next a⟩ :: right, hands, begun,
      .did n op world.elapsed world.wall e a :: history⟩ := by
  obtain ⟨hbegan, q, hleads, hrest⟩ := ht.call ⟨n, op, .step e next⟩ (by simp)
  obtain rfl : Program.step e next = q := hrest.resolve_right nofun
  obtain ⟨hothers, -⟩ := ht.around
  have hn : n < begun := (ht.began n op hbegan).1
  have hself := deeds_did_self n op history world.elapsed world.wall e a
  have hsame : ∀ m ≠ n, deeds m (.did n op world.elapsed world.wall e a :: history) = deeds m history :=
    fun m hm => deeds_did_of_ne op history (Ne.symm hm) ..
  have hbegan' : ∀ m op', .began m op' ∈ Event.did n op world.elapsed world.wall e a :: history →
      .began m op' ∈ history := fun m op' h => (List.mem_cons.1 h).resolve_left nofun
  refine ⟨?_, fun m op' hm => ?_, fun m op' time wall e' a' hdid => ?_, fun m hm => ?_, fun c hc => ?_,
    fun m hm => ?_, fun m op' reply hended => ?_⟩
  · simpa using ht.nodup
  · obtain ⟨hlt, hunique⟩ := ht.began m op' (hbegan' m op' hm)
    exact ⟨hlt, fun op'' hm' => hunique op'' (hbegan' m op'' hm')⟩
  · obtain hnew | hold := List.mem_cons.1 hdid
    · obtain ⟨rfl, rfl, -⟩ := Event.did.inj hnew
      exact .tail _ hbegan
    · exact .tail _ (ht.did m op' time wall e' a' hold)
  · dsimp only at hm
    rw [hsame m (by omega)]
    exact ht.fresh m hm
  · simp only [List.mem_append, List.mem_cons] at hc
    by_cases hnumber : c.number = n
    · obtain rfl : c = ⟨n, op, next a⟩ := by
        obtain hc | rfl | hc := hc
        · exact absurd hnumber (hothers c (List.mem_append_left _ hc))
        · rfl
        · exact absurd hnumber (hothers c (List.mem_append_right _ hc))
      exact ⟨.tail _ hbegan, next a, by rw [hself]; exact .step a hleads, .inl rfl⟩
    · have hold : c ∈ left ++ ⟨n, op, .step e next⟩ :: right := by
        obtain hc | rfl | hc := hc
        · simp [hc]
        · exact absurd rfl hnumber
        · simp [hc]
      obtain ⟨hbegan, hleads⟩ := ht.call c hold
      exact ⟨.tail _ hbegan, by rw [hsame c.number hnumber]; exact hleads⟩
  · by_cases hnumber : m = n
    · obtain rfl := hnumber
      exact ⟨op, next a, .tail _ hbegan, by rw [hself]; exact .step a hleads⟩
    · obtain ⟨op', q, hbegan, hleads⟩ := ht.past m hm
      exact ⟨op', q, .tail _ hbegan, by rw [hsame m hnumber]; exact hleads⟩
  · obtain ⟨hbegan, hleads, hover⟩ := ht.ended m op' reply ((List.mem_cons.1 hended).resolve_left nofun)
    simp only [List.forall_mem_append, List.forall_mem_cons] at hover ⊢
    exact ⟨.tail _ hbegan, by rw [hsame m (Ne.symm hover.2.1)]; exact hleads, hover⟩

theorem Tracked.breaks {n : Nat} {op : C.Op} {e : Effect} {next : e.Answer → Program C.Reply}
    (ht : Tracked ⟨world, left ++ ⟨n, op, .step e next⟩ :: right, hands, begun, history⟩) (p : Panic) :
    Tracked ⟨world', left ++ ⟨n, op, .panic p⟩ :: right, hands, begun, history⟩ := by
  refine ⟨by simpa using ht.nodup, ht.began, ht.did, ht.fresh, ?_, ht.past, fun m op' reply hended => ?_⟩
  · have hcall := ht.call
    simp only [List.forall_mem_append, List.forall_mem_cons] at hcall ⊢
    obtain ⟨hleft, ⟨hbegan, q, hleads, -⟩, hright⟩ := hcall
    exact ⟨hleft, ⟨hbegan, q, hleads, .inr ⟨p, rfl⟩⟩, hright⟩
  · obtain ⟨hbegan, hleads, hover⟩ := ht.ended m op' reply hended
    simp only [List.forall_mem_append, List.forall_mem_cons] at hover ⊢
    exact ⟨hbegan, hleads, hover⟩

/-- A call that is over leaves what it has done behind. -/
theorem Tracked.leaves {c : Call C} (ht : Tracked ⟨world, left ++ c :: right, hands, begun, history⟩)
    {event : Event C} (hover : isOver event = true)
    (hended : ∀ n op reply, event = .ended n op reply → c = ⟨n, op, .done reply⟩) :
    Tracked ⟨world, left ++ right, hands', begun, event :: history⟩ := by
  have hdeeds : ∀ n, deeds n (event :: history) = deeds n history := by
    cases event <;> first | exact fun _ => rfl | cases hover
  have hbegan : ∀ n op, .began n op ∈ event :: history → .began n op ∈ history := by
    intro n op h
    refine (List.mem_cons.1 h).resolve_left fun heq => ?_
    cases heq
    cases hover
  obtain ⟨hothers, hnodup⟩ := ht.around
  refine ⟨hnodup, fun n op h => ?_, fun n op time wall e a hdid => ?_, fun n hn => ?_, fun d hd => ?_,
    fun n hn => ?_, fun n op reply h => ?_⟩
  · obtain ⟨hlt, hunique⟩ := ht.began n op (hbegan n op h)
    exact ⟨hlt, fun op' h' => hunique op' (hbegan n op' h')⟩
  · refine .tail _ (ht.did n op time wall e a ((List.mem_cons.1 hdid).resolve_left fun heq => ?_))
    rw [← heq] at hover
    cases hover
  · rw [hdeeds]
    exact ht.fresh n hn
  · have hold : d ∈ left ++ c :: right := by
      simp only [List.mem_append, List.mem_cons] at hd ⊢
      exact hd.imp_right .inr
    obtain ⟨hbegan, hleads⟩ := ht.call d hold
    exact ⟨.tail _ hbegan, by rw [hdeeds]; exact hleads⟩
  · obtain ⟨op, q, hbegan, hleads⟩ := ht.past n hn
    exact ⟨op, q, .tail _ hbegan, by rw [hdeeds]; exact hleads⟩
  · rw [hdeeds]
    obtain heq | hold := List.mem_cons.1 h
    · obtain rfl := hended n op reply heq.symm
      obtain ⟨hbegan, q, hleads, hrest⟩ := ht.call ⟨n, op, .done reply⟩ (by simp)
      obtain rfl : Program.done reply = q := hrest.resolve_right nofun
      exact ⟨.tail _ hbegan, hleads, hothers⟩
    · obtain ⟨hbegan, hleads, hpast⟩ := ht.ended n op reply hold
      simp only [List.forall_mem_append, List.forall_mem_cons] at hpast ⊢
      exact ⟨.tail _ hbegan, hleads, hpast.1, hpast.2.2⟩

end

theorem Tracked.step {K : Conditions} {s s' : Scene C} (h : Step K s s') (ht : s.Tracked) :
    s'.Tracked := by
  cases h with
  | begins op h => exact ht.begins op
  | takes op thing left right h => exact ht.begins op
  | acts n op e next a left right h => exact ht.acts a
  | breaks n op e next p left right h => exact ht.breaks p
  | ends n op reply left right =>
    refine ht.leaves rfl fun _ _ _ h => ?_
    obtain ⟨rfl, rfl, rfl⟩ := Event.ended.inj h
    rfl
  | panics n op p left right => exact ht.leaves rfl fun _ _ _ h => nomatch h
  | abandons c left right => exact ht.leaves rfl fun _ _ _ h => nomatch h
  | drifts h => exact ⟨ht.nodup, ht.began, ht.did, ht.fresh, ht.call, ht.past, ht.ended⟩

theorem Tracked.run {K : Conditions} {s s' : Scene C} (h : Run K s s') (ht : s.Tracked) : s'.Tracked := by
  induction h with
  | refl => exact ht
  | tail _ hstep ih => exact ih.step hstep

theorem Reachable.tracked {K : Conditions} {world : World} {s : Scene C} (h : Reachable K world s) :
    s.Tracked :=
  (tracked_start world).run h

/-- What a call that has begun has done leads somewhere. -/
theorem Tracked.exists_leads {s : Scene C} (ht : s.Tracked) {n : Nat} {op : C.Op}
    (hbegan : .began n op ∈ s.history) : ∃ q, (C.program op).Leads (deeds n s.history) q := by
  obtain ⟨op', q, hbegan', hleads⟩ := ht.past n (ht.began n op hbegan).1
  obtain rfl := (ht.began n op hbegan).2 op' hbegan'
  exact ⟨q, hleads⟩

/-- A call has no effect that its program could not have. -/
theorem Tracked.each {P : Effect → Prop} {s : Scene C} (ht : s.Tracked) {n : Nat} {op : C.Op} {e : Effect}
    {next : e.Answer → Program C.Reply} (hc : ⟨n, op, .step e next⟩ ∈ s.calls)
    (hop : (C.program op).Each P) : P e := by
  obtain ⟨-, q, hleads, hrest⟩ := ht.call _ hc
  obtain rfl : Program.step e next = q := hrest.resolve_right nofun
  exact (hleads.each hop).1.1

/-- Whatever a call has done is an effect of its program. -/
theorem Tracked.did_each {P : Effect → Prop} {s : Scene C} (ht : s.Tracked) {n time : Nat} {op : C.Op}
    {wall : Int} {e : Effect} {a : e.Answer} (hdid : .did n op time wall e a ∈ s.history)
    (hop : (C.program op).Each P) : P e := by
  obtain ⟨q, hleads⟩ := ht.exists_leads (ht.did n op time wall e a hdid)
  refine (hleads.each hop).2 ⟨e, a⟩ (List.mem_filterMap.2 ⟨_, hdid, ?_⟩)
  simp [deed?]

/-! ### Moments of a history -/

section

variable {K : Conditions} {world : World} {s s' : Scene C} {later earlier : List (Event C)} {n : Nat}
  {op : C.Op}

/-- A step adds at most one event. -/
theorem Step.history (h : Step K s s') :
    s'.history = s.history ∨ ∃ event, s'.history = event :: s.history := by
  cases h with
  | breaks | drifts => exact .inl rfl
  | _ => exact .inr ⟨_, rfl⟩

/-- For every event there was a step that added it. -/
theorem exists_step_of_history {event : Event C} (h : Reachable K world s)
    (hhistory : s.history = later ++ event :: earlier) :
    ∃ before after, Reachable K world before ∧ Step K before after ∧ before.history = earlier ∧
      after.history = event :: earlier := by
  induction h generalizing later with
  | refl => simp [start] at hhistory
  | @tail s t hrun hstep ih =>
    obtain hsame | ⟨last, hlast⟩ := hstep.history
    · exact ih (hsame ▸ hhistory)
    rw [hlast] at hhistory
    cases later with
    | nil =>
      obtain ⟨rfl, rfl⟩ := List.cons.inj hhistory
      exact ⟨s, t, hrun, hstep, rfl, hlast⟩
    | cons newest later => exact ih (List.cons.inj hhistory).2

/-- Every part of a history from its start on was all that had happened at some time. -/
theorem exists_of_suffix (h : Reachable K world s) (hearlier : earlier <:+ s.history) :
    ∃ before, Reachable K world before ∧ before.history = earlier := by
  obtain ⟨later, hhistory⟩ := hearlier
  obtain rfl | ⟨later, event, rfl⟩ := List.eq_nil_or_concat (l := later)
  · exact ⟨s, h, hhistory.symm⟩
  · rw [List.concat_eq_append, List.append_assoc, List.singleton_append] at hhistory
    obtain ⟨before, -, hbefore, -, hsame, -⟩ := exists_step_of_history h hhistory.symm
    exact ⟨before, hbefore, hsame⟩

/-- When an effect was had, it happened to the world of that time. -/
theorem exists_happens_of_history {time : Nat} {wall : Int} {e : Effect} {a : e.Answer}
    (h : Reachable K world s) (hhistory : s.history = later ++ .did n op time wall e a :: earlier) :
    ∃ before world', Reachable K world before ∧ before.history = earlier ∧
      Happens K.failing before.world e world' (.ok a) := by
  obtain ⟨before, after, hbefore, hstep, rfl, hafter⟩ := exists_step_of_history h hhistory
  refine ⟨before, after.world, hbefore, rfl, ?_⟩
  cases hstep with
  | acts m op' e' next a' left right happened =>
    obtain ⟨hevent, -⟩ := List.cons.inj hafter
    cases hevent
    exact happened
  | breaks | drifts => exact absurd hafter.symm (List.cons_ne_self _ _)
  | _ => cases hafter

/-- A call has done nothing before it begins. -/
theorem deeds_eq_nil_of_history (h : Reachable K world s)
    (hhistory : s.history = later ++ .began n op :: earlier) : deeds n earlier = [] := by
  obtain ⟨before, after, hbefore, hstep, rfl, hafter⟩ := exists_step_of_history h hhistory
  refine hbefore.tracked.fresh n ?_
  cases hstep with
  | begins op' hneeds =>
    obtain ⟨hevent, -⟩ := List.cons.inj hafter
    cases hevent
    exact Nat.le_refl _
  | takes op' thing left right hneeds =>
    obtain ⟨hevent, -⟩ := List.cons.inj hafter
    cases hevent
    exact Nat.le_refl _
  | breaks | drifts => exact absurd hafter.symm (List.cons_ne_self _ _)
  | _ => cases hafter

end

/-! ### Things in hand -/

/-- A call ended with a reply that put a thing in hand. -/
def Gained (thing : C.Thing) (history : List (Event C)) : Prop :=
  ∃ n op reply, .ended n op reply ∈ history ∧ C.gains op reply = some thing

theorem Gained.cons {thing : C.Thing} {history : List (Event C)} (h : Gained thing history)
    (event : Event C) : Gained thing (event :: history) := by
  obtain ⟨n, op, reply, hended, hgains⟩ := h
  exact ⟨n, op, reply, .tail _ hended, hgains⟩

/-- Whatever is in hand or was used up by a call had been put there. -/
structure Earned (s : Scene C) : Prop where
  hands : ∀ thing ∈ s.hands, Gained thing s.history
  began : ∀ n op thing, .began n op ∈ s.history → C.needs op = some thing → Gained thing s.history

theorem Earned.step {K : Conditions} {s s' : Scene C} (h : Step K s s') (hs : s.Earned) : s'.Earned := by
  cases h with
  | begins op hneeds =>
    refine ⟨fun thing hthing => (hs.hands thing hthing).cons _, fun n op' thing hbegan hthing => ?_⟩
    obtain heq | hold := List.mem_cons.1 hbegan
    · obtain ⟨-, rfl⟩ := Event.began.inj heq
      cases hneeds.symm.trans hthing
    · exact (hs.began n op' thing hold hthing).cons _
  | takes op taken left right hneeds =>
    have hhands := hs.hands
    simp only [List.forall_mem_append, List.forall_mem_cons] at hhands
    obtain ⟨hleft, htaken, hright⟩ := hhands
    refine ⟨List.forall_mem_append.2 ⟨fun thing hthing => (hleft thing hthing).cons _,
      fun thing hthing => (hright thing hthing).cons _⟩, fun n op' thing hbegan hthing => ?_⟩
    obtain heq | hold := List.mem_cons.1 hbegan
    · obtain ⟨-, rfl⟩ := Event.began.inj heq
      cases hneeds.symm.trans hthing
      exact htaken.cons _
    · exact (hs.began n op' thing hold hthing).cons _
  | ends n op reply left right =>
    refine ⟨List.forall_mem_append.2 ⟨fun thing hthing => ?_,
      fun thing hthing => (hs.hands thing hthing).cons _⟩, fun n op' thing hbegan hthing => ?_⟩
    · exact ⟨n, op, reply, .head _, Option.mem_toList.1 hthing⟩
    · exact (hs.began n op' thing ((List.mem_cons.1 hbegan).resolve_left nofun) hthing).cons _
  | breaks => exact ⟨hs.hands, hs.began⟩
  | drifts h => exact ⟨hs.hands, hs.began⟩
  | _ =>
    exact ⟨fun thing hthing => (hs.hands thing hthing).cons _, fun n op thing hbegan hthing =>
      (hs.began n op thing ((List.mem_cons.1 hbegan).resolve_left nofun) hthing).cons _⟩

theorem Reachable.earned {K : Conditions} {world : World} {s : Scene C} (h : Reachable K world s) :
    s.Earned := by
  induction h with
  | refl => exact ⟨by simp [start], by simp [start]⟩
  | tail _ hstep ih => exact ih.step hstep

end Scene

end JobQueue
