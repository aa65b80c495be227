import JobQueue.Proofs.Interleaving

/-! What an effect changes: a command that is answered has done its work in one of the stores, one
that gives an error has done nothing, and no other effect touches a store. -/

namespace JobQueue

/-! ### Commands of a client -/

namespace Client

/-- A command that is answered has run in the store. -/
theorem run_ok {now : Nat} {client client' : Client} {c : Command} {r : c.Result}
    (h : client.run now c = (client', .ok r)) :
    (∃ error, r = .error error ∧ client'.store = client.store) ∨
    ∃ a store, r = .ok a ∧ client.store.run now c = .ok (a, store) ∧ client'.store = store := by
  unfold run at h
  split at h
  · obtain ⟨rfl, h⟩ := Prod.mk.inj h
    cases h
    exact .inl ⟨_, rfl, rfl⟩
  · dsimp only at h
    split at h
    · obtain ⟨rfl, h⟩ := Prod.mk.inj h
      cases h
      exact .inl ⟨_, rfl, rfl⟩
    · split at h
      next p hp => cases (Prod.mk.inj h).2
      next a store hs =>
        obtain ⟨rfl, h⟩ := Prod.mk.inj h
        cases h
        exact .inr ⟨a, store, rfl, hs, rfl⟩

/-- A command that panics has done so in the store and left it as it was. -/
theorem run_error {now : Nat} {client client' : Client} {c : Command} {p : Panic}
    (h : client.run now c = (client', .error p)) :
    client.store.run now c = .error p ∧ client'.store = client.store := by
  unfold run at h
  split at h
  · cases (Prod.mk.inj h).2
  · dsimp only at h
    split at h
    · cases (Prod.mk.inj h).2
    · split at h
      next p' hp =>
        obtain ⟨rfl, h⟩ := Prod.mk.inj h
        cases h
        exact ⟨hp, rfl⟩
      next => cases (Prod.mk.inj h).2

/-- Every command reaches the store. -/
def Answers (client : Client) : Prop :=
  ∀ verb, client.refused verb = false ∧ client.stalled verb = 0

/-- The client after a command that was answered. -/
def did (client : Client) (c : Command) (store : Store) : Client :=
  { client with calls := (c.verb, c.key) :: client.calls, store := store }

theorem Answers.run {now : Nat} {client : Client} {c : Command} {a : c.Answer} {store : Store}
    (h : client.Answers) (hrun : client.store.run now c = .ok (a, store)) :
    client.run now c = (client.did c store, .ok (.ok a)) := by
  obtain ⟨hrefused, hstalled⟩ := h c.verb
  simp [Client.run, hstalled, hrefused, hrun, did]

end Client

/-- The world after a command to the store of the jobs that was answered. -/
def World.did (world : World) (c : Command) (store : Store) : World :=
  { world with jobs := world.jobs.did c store }

@[simp] theorem World.did_store (world : World) (c : Command) (store : Store) :
    (world.did c store).jobs.store = store := rfl

@[simp] theorem World.did_wall (world : World) (c : Command) (store : Store) :
    (world.did c store).wall = world.wall := rfl

theorem World.perform_of_answers {world : World} {c : Command} {a : c.Answer} {store : Store}
    (h : world.jobs.Answers) (hrun : world.jobs.store.run world.elapsed c = .ok (a, store)) :
    world.perform (.command .jobs c) = (world.did c store, .ok (.ok a)) := by
  simp [World.perform, World.client, World.setClient, World.did, h.run hrun]

/-! ### Effects in a world -/

namespace Happens

variable {failing : Prop} {world world' : World}

/-- No effect moves a clock. -/
theorem clocks {e : Effect} {r : Except Panic e.Answer} (h : Happens failing world e world' r) :
    world'.wall = world.wall ∧ world'.elapsed = world.elapsed := by
  cases h with
  | failed => exact ⟨rfl, rfl⟩
  | performed =>
    cases e with
    | command site c =>
      cases site with
      | jobs => exact ⟨rfl, rfl⟩
      | deadLetters =>
        simp only [World.perform, World.setClient]
        split <;> exact ⟨rfl, rfl⟩
    | clock => exact ⟨rfl, rfl⟩
    | process request => exact ⟨rfl, rfl⟩
    | count metric => exact ⟨rfl, rfl⟩

/-- What an answered command to the store of the jobs has done there. -/
theorem jobs {c : Command} {r : c.Result} (h : Happens failing world (.command .jobs c) world' (.ok r)) :
    (∃ error, r = .error error ∧ world'.jobs.store = world.jobs.store) ∨
    ∃ a store, r = .ok a ∧ world.jobs.store.run world.elapsed c = .ok (a, store) ∧
      world'.jobs.store = store := by
  generalize hr : Except.ok r = r' at h
  cases h with
  | failed _ _ error => cases hr; exact .inl ⟨error, rfl, rfl⟩
  | performed =>
    cases hrun : world.jobs.run world.elapsed c with
    | mk client result =>
      have hr' : Except.ok r = result := by simpa [World.perform, World.client, hrun] using hr
      subst hr'
      simpa [World.perform, World.client, World.setClient, hrun] using Client.run_ok hrun

/-- A command to the store of the jobs can only panic in that store, and leaves it as it was. -/
theorem jobs_error {c : Command} {p : Panic}
    (h : Happens failing world (.command .jobs c) world' (.error p)) :
    world.jobs.store.run world.elapsed c = .error p ∧ world'.jobs.store = world.jobs.store := by
  generalize hr : Except.error p = r at h
  cases h with
  | failed => cases hr
  | performed =>
    cases hrun : world.jobs.run world.elapsed c with
    | mk client result =>
      have hr' : Except.error p = result := by simpa [World.perform, World.client, hrun] using hr
      subst hr'
      simpa [World.perform, World.client, World.setClient, hrun] using Client.run_error hrun

/-- A command is answered if every command reaches the store. -/
theorem of_answers {c : Command} {a : c.Answer} {store : Store} (h : world.jobs.Answers)
    (hrun : world.jobs.store.run world.elapsed c = .ok (a, store)) :
    Happens failing world (.command .jobs c) (world.did c store) (.ok (.ok a)) := by
  have happened : Happens failing world _ _ _ := .performed (.command .jobs c)
  rwa [World.perform_of_answers h hrun] at happened

/-- A reading of the clock is what the clock shows. -/
theorem clock {reading : Int} (h : Happens failing world .clock world' (.ok reading)) :
    reading = world.wall ∧ world' = world := by
  cases h
  exact ⟨rfl, rfl⟩

/-- What every command of an effect leaves true of a store stays true of the store of the jobs. -/
theorem keeps {e : Effect} {r : Except Panic e.Answer} {P : Store → Prop}
    (h : Happens failing world e world' r)
    (hrun : ∀ site c now store a store', e = .command site c → store.run now c = .ok (a, store') →
      P store → P store')
    (hP : P world.jobs.store) : P world'.jobs.store := by
  cases h with
  | failed => exact hP
  | performed =>
    cases e with
    | command site c =>
      have hclient : P (world.jobs.run world.elapsed c).1.store := by
        cases hresult : world.jobs.run world.elapsed c with
        | mk client r =>
          cases r with
          | error p => rwa [(Client.run_error hresult).2]
          | ok r =>
            obtain ⟨error, -, hsame⟩ | ⟨a, store, -, hstore, rfl⟩ := Client.run_ok hresult
            · rwa [hsame]
            · exact hrun site c _ _ a _ rfl hstore hP
      cases site with
      | jobs => exact hclient
      | deadLetters =>
        simp only [World.perform, World.setClient, World.client]
        cases world.deadLetters with
        | some client => exact hP
        | none => exact hclient
    | clock | process | count => exact hP

end Happens

/-! ### Lists and sorted sets -/

namespace Store

@[simp] theorem lists_setList (store : Store) (key : String) (items : List String) :
    (store.setList key items).lists = store.lists.put key items := rfl

@[simp] theorem sortedSets_setList (store : Store) (key : String) (items : List String) :
    (store.setList key items).sortedSets = store.sortedSets := rfl

@[simp] theorem lists_setSorted (store : Store) (key : String) (set : List (Int × String)) :
    (store.setSorted key set).lists = store.lists := rfl

@[simp] theorem sortedSets_setSorted (store : Store) (key : String) (set : List (Int × String)) :
    (store.setSorted key set).sortedSets = store.sortedSets.put key set := rfl

@[simp] theorem lists_pushFront (store : Store) (key value : String) :
    (store.pushFront key value).lists = store.lists.put key (value :: store.lists.get key) := rfl

@[simp] theorem sortedSets_pushFront (store : Store) (key value : String) :
    (store.pushFront key value).sortedSets = store.sortedSets := rfl

@[simp] theorem lists_pushBack (store : Store) (key value : String) :
    (store.pushBack key value).lists = store.lists.put key (store.lists.get key ++ [value]) := rfl

@[simp] theorem sortedSets_pushBack (store : Store) (key value : String) :
    (store.pushBack key value).sortedSets = store.sortedSets := rfl

theorem rotate_fst (store : Store) (source target : String) :
    (store.rotate source target).1 = (store.lists.get source).getLast? := by
  unfold rotate
  split <;> simp_all

theorem rotate_of_none {store : Store} {source target : String}
    (h : (store.lists.get source).getLast? = none) : store.rotate source target = (none, store) := by
  rw [rotate, h]

theorem rotate_of_some {store : Store} {source target value : String}
    (h : (store.lists.get source).getLast? = some value) :
    (store.rotate source target).2 =
      (store.setList source (store.lists.get source).dropLast).pushFront target value := by
  rw [rotate, h]

/-- To remove the first occurrence of a value is to erase it. -/
theorem removeFirst_one (value : String) (items : List String) :
    removeFirst value 1 items = items.erase value := by
  induction items with
  | nil => rfl
  | cons item items ih =>
    by_cases h : item = value
    · simp [removeFirst, h]
    · simp [removeFirst, h, ih]

theorem mem_insertScored {x y : Int × String} {set : List (Int × String)} :
    y ∈ insertScored x set ↔ y = x ∨ y ∈ set := by
  induction set with
  | nil => simp [insertScored]
  | cons z set ih =>
    unfold insertScored
    split
    · simp
    · rw [List.mem_cons, ih, List.mem_cons, or_left_comm]

theorem mem_withoutMember {member : String} {x : Int × String} {set : List (Int × String)} :
    x ∈ withoutMember member set ↔ x ∈ set ∧ x.2 ≠ member := by
  simp [withoutMember]

/-- A member has been removed if less is left. -/
theorem length_withoutMember_lt {member : String} {set : List (Int × String)} :
    (withoutMember member set).length < set.length ↔ ∃ score, (score, member) ∈ set := by
  simp [withoutMember, List.length_filter_lt_length_iff_exists]

theorem mem_membersWithin {low high : Int} {member : String} {set : List (Int × String)} :
    member ∈ membersWithin low high set ↔
      ∃ score, (score, member) ∈ set ∧ low ≤ score ∧ score ≤ high := by
  simp [membersWithin]

end Store

end JobQueue
