import JobQueue.Proofs.Store.Flow

/-! What a history leaves in the world. A list in the world to which deeds add at most one item each, and
which nothing else changes, shows what was added in the order in which it was done. -/

namespace JobQueue

/-! ### The stores of the sites -/

namespace World

variable (world : World) (client : Client) (site : Site)

@[simp] theorem client_setClient_self : (world.setClient client site).client site = client := by
  cases site with
  | jobs => rfl
  | deadLetters => cases hown : world.deadLetters <;> simp [World.client, setClient, hown]

/-- Both sites have the same client, or a change of the client of one leaves that of the other as it is. -/
theorem client_setClient (site' : Site) :
    (world.setClient client site).client site' = world.client site' ∨
      (world.setClient client site).client site' = client ∧ world.client site' = world.client site := by
  cases hown : world.deadLetters <;> cases site <;> cases site' <;> simp [World.client, setClient, hown]

end World

namespace Happens

variable {failing : Prop} {world world' : World}

/-- What an answered command has done in the store of its site. -/
theorem ran {site : Site} {c : Command} {r : c.Result}
    (h : Happens failing world (.command site c) world' (.ok r)) :
    (∃ error, r = .error error ∧ (world'.client site).store = (world.client site).store) ∨
      ∃ a, r = .ok a ∧
        (world.client site).store.run world.elapsed c = .ok (a, (world'.client site).store) := by
  generalize hr : Except.ok r = r' at h
  cases h with
  | failed _ _ error =>
    cases hr
    exact .inl ⟨error, rfl, rfl⟩
  | performed =>
    rw [World.perform, World.client_setClient_self]
    obtain ⟨error, rfl, hsame⟩ | ⟨a, store, rfl, hrun, rfl⟩ :=
      Client.run_ok (Prod.ext rfl hr.symm :
        (world.client site).run world.elapsed c = (((world.client site).run world.elapsed c).1, .ok r))
    · exact .inl ⟨error, rfl, hsame⟩
    · exact .inr ⟨a, rfl, hrun⟩

/-- The store of a site changes by commands that run in it. -/
theorem client_store {e : Effect} {r : Except Panic e.Answer} (site : Site)
    (h : Happens failing world e world' r) :
    (world'.client site).store = (world.client site).store ∨ ∃ site' c a, e = .command site' c ∧
      (world.client site).store.run world.elapsed c = .ok (a, (world'.client site).store) := by
  cases h with
  | failed => exact .inl rfl
  | performed =>
    cases e with
    | command site' c =>
      rw [World.perform]
      obtain hother | ⟨hsame, hclient⟩ :=
        world.client_setClient ((world.client site').run world.elapsed c).1 site' site
      · exact .inl (by rw [hother])
      · rw [hsame, hclient]
        cases hrun : (world.client site').run world.elapsed c with
        | mk client r =>
          cases r with
          | error p => exact .inl (Client.run_error hrun).2
          | ok r =>
            obtain ⟨error, -, hstore⟩ | ⟨a, store, -, hran, rfl⟩ := Client.run_ok hrun
            · exact .inl hstore
            · exact .inr ⟨site', c, a, rfl, hran⟩
    | clock | process | count => exact .inl (by cases site <;> rfl)

/-- An effect that panics leaves every store as it was. -/
theorem client_store_of_error {e : Effect} {p : Panic} (site : Site)
    (h : Happens failing world e world' (.error p)) :
    (world'.client site).store = (world.client site).store := by
  generalize hr : Except.error p = r at h
  cases h with
  | failed => cases hr
  | performed =>
    cases e with
    | command site' c =>
      rw [World.perform]
      obtain hother | ⟨hsame, hclient⟩ :=
        world.client_setClient ((world.client site').run world.elapsed c).1 site' site
      · rw [hother]
      · rw [hsame, hclient]
        exact (Client.run_error (Prod.ext rfl hr.symm :
          (world.client site').run world.elapsed c =
            (((world.client site').run world.elapsed c).1, .error p))).2
    | clock | process | count => cases hr

end Happens

/-! ### What commands leave as it is -/

/-- A command may change what is on a list. -/
def Command.changesList (key : String) : Command → Bool
  | .lpush k _ => k == key
  | .rpush k _ => k == key
  | .lrem k _ _ => k == key
  | .rpoplpush source target => source == key || target == key
  | _ => false

namespace Store

variable {now : Nat} {store store' : Store} {c : Command} {a : c.Answer}

theorem list_of_run {key : String} (hkey : c.changesList key = false)
    (h : store.run now c = .ok (a, store')) :
    store'.lists.get key = store.lists.get key := by
  cases c with
  | set k v seconds => rw [(set_frame h).1]
  | lpush k v | rpush k v | lrem k count v =>
    cases h
    exact Keyspace.get_put_of_ne _ _ (Ne.symm (by simpa [Command.changesList] using hkey))
  | rpoplpush source target =>
    obtain ⟨hsource, htarget⟩ : source ≠ key ∧ target ≠ key := by simpa [Command.changesList] using hkey
    obtain rfl : (store.rotate source target).2 = store' := by rw [Except.ok.inj h]
    cases hlast : (store.lists.get source).getLast? with
    | none => rw [rotate_of_none hlast]
    | some moved =>
      rw [rotate_of_some hlast, lists_pushFront, lists_setList, Keyspace.get_put_of_ne _ _ htarget.symm,
        Keyspace.get_put_of_ne _ _ hsource.symm]
  | _ =>
    cases h
    rfl

theorem published_of_run (hverb : c.verb ≠ .publish) (h : store.run now c = .ok (a, store')) :
    store'.published = store.published := by
  cases c with
  | set k v seconds =>
    simp only [run, set] at h
    split at h
    · cases h
      rfl
    · split at h
      · cases h
        rfl
      · cases h
  | rpoplpush source target =>
    obtain rfl : (store.rotate source target).2 = store' := by rw [Except.ok.inj h]
    unfold rotate
    split <;> rfl
  | publish => exact absurd rfl hverb
  | _ =>
    cases h
    rfl

end Store

namespace Happens

variable {failing : Prop} {world world' : World} {e : Effect} {r : Except Panic e.Answer}

theorem list_eq {key : String} (site : Site)
    (hkey : ∀ site c, e = .command site c → c.changesList key = false)
    (h : Happens failing world e world' r) :
    (world'.client site).store.lists.get key = (world.client site).store.lists.get key := by
  obtain hsame | ⟨site', c, a, he, hrun⟩ := h.client_store site
  · rw [hsame]
  · exact Store.list_of_run (hkey site' c he) hrun

theorem published_eq (site : Site) (hverb : ∀ site c, e = .command site c → c.verb ≠ .publish)
    (h : Happens failing world e world' r) :
    (world'.client site).store.published = (world.client site).store.published := by
  obtain hsame | ⟨site', c, a, he, hrun⟩ := h.client_store site
  · rw [hsame]
  · exact Store.published_of_run (hverb site' c he) hrun

end Happens

/-! ### What is asked of the service, and what is counted -/

/-- A request that is handed to the processing service. -/
def Deed.request? : Deed → Option JobRequest
  | ⟨.process request, _⟩ => some request
  | _ => none

/-- What a deed counts. -/
def Deed.metric? : Deed → Option Metric
  | ⟨.count metric, _⟩ => some metric
  | _ => none

/-! ### Histories that show -/

variable {β : Type} {C : Clients}

/-- A list in the world to which effects of a kind add at most one item each, and which nothing else
changes. -/
structure World.Shows (P : Effect → Prop) (view : World → List β) (adds : Deed → Option β) : Prop where
  acts : ∀ {failing world world' e a}, P e → Happens failing world e world' (.ok a) →
    view world' = view world ++ (adds ⟨e, a⟩).toList
  breaks : ∀ {failing world world' e p}, P e → Happens failing world e world' (.error p) →
    view world' = view world
  drifts : ∀ {K world world'}, World.Drifts K world world' → view world' = view world

namespace World

variable {P : Effect → Prop}

@[simp] theorem requests_setClient (world : World) (client : Client) (site : Site) :
    (world.setClient client site).requests = world.requests := by
  cases site with
  | jobs => rfl
  | deadLetters => cases hown : world.deadLetters <;> simp [setClient, hown]

@[simp] theorem counts_setClient (world : World) (client : Client) (site : Site) :
    (world.setClient client site).counts = world.counts := by
  cases site with
  | jobs => rfl
  | deadLetters => cases hown : world.deadLetters <;> simp [setClient, hown]

/-- A list to which effects add as the world performs them, whatever becomes of commands. -/
theorem shows_of_perform {view : World → List β} {adds : Deed → Option β}
    (hcommand : ∀ site c r, adds ⟨.command site c, r⟩ = none)
    (hkept : ∀ world client site, view (setClient world client site) = view world)
    (hadds : ∀ world e a, (∀ site c, e ≠ .command site c) → (world.perform e).2 = .ok a →
      view (world.perform e).1 = view world ++ (adds ⟨e, a⟩).toList)
    (hdrifts : ∀ world wall elapsed rules,
      view { world with wall := wall, elapsed := elapsed, rules := rules } = view world) :
    Shows P view adds where
  acts {failing world world' e a} _ happened := by
    generalize hr : Except.ok a = r at happened
    cases happened with
    | failed => simp [hcommand]
    | performed =>
      cases e with
      | command site c => simp [perform, hkept, hcommand]
      | clock | process | count => exact hadds world _ a (by simp) hr.symm
  breaks {failing world world' e p} _ happened := by
    generalize hr : Except.error p = r at happened
    cases happened with
    | failed => rfl
    | performed =>
      cases e with
      | command site c => exact hkept ..
      | clock | process | count => cases hr
  drifts h := by
    cases h
    exact hdrifts ..

theorem shows_requests : Shows P (fun world => world.requests.reverse) Deed.request? := by
  refine shows_of_perform (fun _ _ _ => rfl) (by simp) (fun world e a he hr => ?_) fun _ _ _ _ => rfl
  cases e with
  | command site c => exact absurd rfl (he site c)
  | _ => simp [perform, Deed.request?]

theorem shows_counts : Shows P (fun world => world.counts.reverse) Deed.metric? := by
  refine shows_of_perform (fun _ _ _ => rfl) (by simp) (fun world e a he hr => ?_) fun _ _ _ _ => rfl
  cases e with
  | command site c => exact absurd rfl (he site c)
  | _ => simp [perform, Deed.metric?]

end World

/-- What an event adds. -/
def Event.added (adds : Deed → Option β) : Event C → Option β
  | .did _ _ _ _ e a => adds ⟨e, a⟩
  | _ => none

namespace Scene

/-- What a history adds, in the order in which it was done. -/
def shown (adds : Deed → Option β) (history : List (Event C)) : List β :=
  history.reverse.filterMap (Event.added adds)

theorem shown_cons (adds : Deed → Option β) (event : Event C) (history : List (Event C)) :
    shown adds (event :: history) = shown adds history ++ (event.added adds).toList := by
  rw [shown, List.reverse_cons, List.filterMap_append, shown]
  cases hadded : event.added adds <;> simp [hadded]

theorem shown_append (adds : Deed → Option β) (later history : List (Event C)) :
    shown adds (later ++ history) = shown adds history ++ shown adds later := by
  rw [shown, List.reverse_append, List.filterMap_append]
  rfl

/-- Every item that was added is one deed. -/
theorem countP_shown (adds : Deed → Option β) (p : β → Bool) (history : List (Event C)) :
    (shown adds history).countP p = history.countP (Event.does fun _ d => (adds d).any p) := by
  induction history with
  | nil => rfl
  | cons event history ih =>
    rw [shown_cons, List.countP_append, ih, List.countP_cons]
    congr 1
    cases event with
    | did n op time wall e a =>
      cases hadds : adds ⟨e, a⟩ <;> simp [Event.added, Event.does, hadds]
    | _ => rfl

/-- What a history adds, with the calls that have added it, in the order in which it was done. -/
def signed (adds : Deed → Option β) (history : List (Event C)) : List (Nat × β) :=
  history.reverse.filterMap fun event => (event.added adds).map (event.number, ·)

theorem signed_cons (adds : Deed → Option β) (event : Event C) (history : List (Event C)) :
    signed adds (event :: history) =
      signed adds history ++ ((event.added adds).map (event.number, ·)).toList := by
  rw [signed, List.reverse_cons, List.filterMap_append, signed]
  cases hadded : event.added adds <;> simp [hadded]

theorem map_snd_signed (adds : Deed → Option β) (history : List (Event C)) :
    (signed adds history).map Prod.snd = shown adds history := by
  induction history with
  | nil => rfl
  | cons event history ih =>
    rw [signed_cons, List.map_append, ih, shown_cons]
    cases event.added adds <;> rfl

/-- What a call has added is what its deeds add. -/
theorem filter_signed (adds : Deed → Option β) (n : Nat) (history : List (Event C)) :
    (signed adds history).filter (·.1 == n) =
      ((deeds n history).reverse.filterMap adds).map (n, ·) := by
  induction history with
  | nil => rfl
  | cons event history ih =>
    rw [signed_cons, List.filter_append, ih]
    cases event with
    | did m op time wall e a =>
      by_cases hm : m = n
      · subst hm
        rw [deeds_did_self, List.reverse_cons, List.filterMap_append, List.map_append]
        cases hadds : adds ⟨e, a⟩ <;> simp [Event.added, Event.number, hadds]
      · rw [deeds_did_of_ne _ _ hm]
        cases hadds : adds ⟨e, a⟩ <;> simp [Event.added, Event.number, hadds, hm]
    | _ => simp [Event.added]

theorem mem_signed {adds : Deed → Option β} {n : Nat} {b : β} {history : List (Event C)} :
    (n, b) ∈ signed adds history ↔ ∃ d ∈ deeds n history, adds d = some b := by
  have hfilter : (n, b) ∈ signed adds history ↔ (n, b) ∈ (signed adds history).filter (·.1 == n) := by
    simp
  rw [hfilter, filter_signed]
  simp

/-- The calls that have added something. -/
theorem mem_map_fst_signed {adds : Deed → Option β} {n : Nat} {history : List (Event C)} :
    n ∈ (signed adds history).map Prod.fst ↔ ∃ d ∈ deeds n history, (adds d).isSome := by
  simp only [List.mem_map, Prod.exists, exists_and_right, exists_eq_right, mem_signed,
    Option.isSome_iff_exists]
  constructor
  · rintro ⟨b, d, hd, hb⟩
    exact ⟨d, hd, b, hb⟩
  · rintro ⟨d, hd, b, hb⟩
    exact ⟨b, d, hd, hb⟩

variable {K : Conditions} {P : Effect → Prop} {view : World → List β} {adds : Deed → Option β}
  {s s' : Scene C}

theorem Step.shows (hview : World.Shows P view adds) (heach : ∀ op, (C.program op).Each P)
    (ht : s.Tracked) (h : Step K s s') :
    ∃ later, s'.history = later ++ s.history ∧ view s'.world = view s.world ++ shown adds later := by
  have hnothing : ∀ event : Event C, event.added adds = none → shown adds [event] = [] := by
    intro event hevent
    rw [shown_cons, hevent]
    rfl
  have hsame : ∀ l : List β, l = l ++ [] := fun l => (List.append_nil l).symm
  cases h with
  | acts n op e next a left right happened =>
    have he := ht.each (List.mem_append_right left (.head right)) (heach op)
    exact ⟨[_], rfl, hview.acts he happened⟩
  | breaks n op e next p left right happened =>
    have he := ht.each (List.mem_append_right left (.head right)) (heach op)
    exact ⟨[], rfl, (hview.breaks he happened).trans (hsame _)⟩
  | drifts h => exact ⟨[], rfl, (hview.drifts h).trans (hsame _)⟩
  | _ => exact ⟨[_], rfl, by rw [hnothing _ rfl]; exact hsame _⟩

/-- Whatever is done later is added at the end. -/
theorem Run.shows (hview : World.Shows P view adds) (heach : ∀ op, (C.program op).Each P)
    (ht : s.Tracked) (h : Run K s s') :
    ∃ later, s'.history = later ++ s.history ∧ view s'.world = view s.world ++ shown adds later := by
  induction h with
  | refl => exact ⟨[], rfl, (List.append_nil _).symm⟩
  | tail hrun hstep ih =>
    obtain ⟨later, hlater, hview'⟩ := ih
    obtain ⟨last, hlast, hview''⟩ := hstep.shows hview heach (ht.run hrun)
    exact ⟨last ++ later, by rw [hlast, hlater, List.append_assoc],
      by rw [hview'', hview', List.append_assoc, ← shown_append]⟩

theorem Reachable.shows {world : World} (hview : World.Shows P view adds)
    (heach : ∀ op, (C.program op).Each P) (h : Reachable K world s) :
    view s.world = view world ++ shown adds s.history := by
  obtain ⟨later, hhistory, hshown⟩ := Run.shows hview heach (tracked_start world) h
  obtain rfl : s.history = later := hhistory.trans (List.append_nil later)
  exact hshown

end Scene

end JobQueue
