import JobQueue.Proofs.Account
import JobQueue.Proofs.Store.Ranking

/-! What a store holds is what it held at first, with what answered commands have put there and without
what they have taken. This holds of the texts on a list and of the members of a sorted set. -/

namespace JobQueue

/-! ### Changes of the store -/

namespace Happens

variable {failing : Prop} {world world' : World} {e : Effect}

/-- What a client that serves a site does is done to the store of the jobs if that store serves it. -/
theorem run_of_perform {site : Site} {c : Command} {r : Except Panic c.Result}
    (h : world.perform (.command site c) = (world', r)) :
    (world'.jobs.store = world.jobs.store ∧ site ≠ .jobs) ∨
      world.jobs.run world.elapsed c = (world'.jobs, r) := by
  cases site with
  | jobs =>
    right
    obtain ⟨rfl, rfl⟩ := Prod.mk.inj h
    rfl
  | deadLetters =>
    cases hclient : world.deadLetters with
    | none =>
      right
      simp only [World.perform, World.client, World.setClient, hclient, Option.getD_none] at h
      obtain ⟨rfl, rfl⟩ := Prod.mk.inj h
      rfl
    | some client =>
      left
      simp only [World.perform, World.client, World.setClient, hclient, Option.getD_some] at h
      obtain ⟨rfl, -⟩ := Prod.mk.inj h
      exact ⟨rfl, by decide⟩

/-- An effect that panics leaves the store of the jobs as it was. -/
theorem store_of_error {p : Panic} (h : Happens failing world e world' (.error p)) :
    world'.jobs.store = world.jobs.store := by
  generalize hr : Except.error p = r at h
  cases h with
  | failed => cases hr
  | performed =>
    cases e with
    | command site c =>
      obtain ⟨hsame, -⟩ | hrun := run_of_perform (Prod.mk.eta (p := world.perform (.command site c))).symm
      · exact hsame
      · rw [← hr] at hrun
        exact (Client.run_error hrun).2
    | clock | process | count => rfl

/-- The store of the jobs changes by answered commands only. -/
theorem store {a : e.Answer} (h : Happens failing world e world' (.ok a)) :
    (world'.jobs.store = world.jobs.store ∧ ∀ c b, (⟨e, a⟩ : Deed) ≠ ⟨.command .jobs c, .ok b⟩) ∨
    ∃ site c b, (⟨e, a⟩ : Deed) = ⟨.command site c, .ok b⟩ ∧
      world.jobs.store.run world.elapsed c = .ok (b, world'.jobs.store) := by
  generalize hr : Except.ok a = r at h
  cases h with
  | failed site c error =>
    cases hr
    exact .inl ⟨rfl, nofun⟩
  | performed =>
    cases e with
    | command site c =>
      obtain ⟨hsame, hsite⟩ | hrun := run_of_perform (Prod.mk.eta (p := world.perform (.command site c))).symm
      · exact .inl ⟨hsame, fun c b heq => hsite (by cases heq; rfl)⟩
      · rw [← hr] at hrun
        obtain ⟨error, rfl, hsame⟩ | ⟨b, store, rfl, hstore, rfl⟩ := Client.run_ok hrun
        · exact .inl ⟨hsame, nofun⟩
        · exact .inr ⟨site, c, b, rfl, hstore⟩
    | clock | process | count => exact .inl ⟨by cases hr; rfl, nofun⟩

end Happens

/-! ### Measures of the store -/

/-- A measure of a store that answered commands raise by no more than what they put there, and lower by at
least what they take. -/
structure Store.Accounts (measure : Store → Nat) (puts takes : Deed → Bool) : Prop where
  site : ∀ d, takes d = true → ∃ c a, d = ⟨.command .jobs c, .ok a⟩
  run : ∀ site c now store a store', Store.run now store c = .ok (a, store') →
    measure store' + (takes ⟨.command site c, .ok a⟩).toNat ≤
      measure store + (puts ⟨.command site c, .ok a⟩).toNat

/-- What has been taken and what is left was there at first or has been put there. -/
theorem Scene.Reachable.account {C : Clients} {K : Conditions} {world : World} {s : Scene C}
    {measure : Store → Nat} {puts takes : Deed → Bool} (h : Reachable K world s)
    (hm : Store.Accounts measure puts takes) :
    measure s.world.jobs.store + s.history.countP (Event.does fun _ => takes) ≤
      measure world.jobs.store + s.history.countP (Event.does fun _ => puts) := by
  induction h with
  | refl => exact Nat.le_refl _
  | tail _ hstep ih =>
    cases hstep with
    | acts n op e next a left right happened =>
      simp only [Event.countP_does_cons]
      obtain ⟨hsame, hnone⟩ | ⟨site, c, b, heq, hrun⟩ := happened.store
      · have htakes : takes ⟨e, a⟩ = false := by
          refine Bool.eq_false_iff.2 fun htakes => ?_
          obtain ⟨c, b, heq⟩ := hm.site _ htakes
          exact hnone c b heq
        simp only [hsame, htakes, Bool.toNat_false] at ih ⊢
        omega
      · have hmove := hm.run site c _ _ _ _ hrun
        rw [heq]
        simp only at ih ⊢
        omega
    | breaks n op e next p left right happened =>
      simp only [happened.store_of_error] at ih ⊢
      exact ih
    | drifts h =>
      cases h
      exact ih
    | _ => simpa [List.countP_cons, Event.does] using ih

/-! ### What commands put and take -/

namespace Deed

variable (key : String) (p : String → Bool)

/-- A text of a kind was put on a list. -/
def puts : Deed → Bool
  | ⟨.command _ (.lpush k value), .ok _⟩ => k == key && p value
  | ⟨.command _ (.rpush k value), .ok _⟩ => k == key && p value
  | ⟨.command _ (.rpoplpush _ target), .ok (some value)⟩ => target == key && p value
  | _ => false

/-- A text of a kind was taken off the end of a list. -/
def takes : Deed → Bool
  | ⟨.command .jobs (.rpoplpush source _), .ok (some value)⟩ => source == key && p value
  | _ => false

/-- A text of a kind was scheduled in a sorted set. -/
def schedules : Deed → Bool
  | ⟨.command _ (.zadd k member _), .ok _⟩ => k == key && p member
  | _ => false

/-- A text of a kind was removed from a sorted set. -/
def removes : Deed → Bool
  | ⟨.command .jobs (.zrem k member), .ok true⟩ => k == key && p member
  | _ => false

theorem takes_of_verb {site : Site} {c : Command} {r : c.Result} (h : c.verb ≠ .rpoplpush) :
    takes key p ⟨.command site c, r⟩ = false := by
  cases c <;> first | exact absurd rfl h | cases site <;> rfl

theorem removes_of_verb {site : Site} {c : Command} {r : c.Result} (h : c.verb ≠ .zrem) :
    removes key p ⟨.command site c, r⟩ = false := by
  cases c <;> first | exact absurd rfl h | cases site <;> rfl

variable {key p}

/-- What was put is a text. -/
theorem exists_of_puts {d : Deed} (h : d.puts key p = true) :
    ∃ value, p value = true ∧ d.puts key (· == value) = true := by
  unfold puts at h
  split at h
  · rw [Bool.and_eq_true] at h
    exact ⟨_, h.2, by simp [puts, h.1]⟩
  · rw [Bool.and_eq_true] at h
    exact ⟨_, h.2, by simp [puts, h.1]⟩
  · rw [Bool.and_eq_true] at h
    exact ⟨_, h.2, by simp [puts, h.1]⟩
  · cases h

theorem exists_of_takes {d : Deed} (h : d.takes key p = true) :
    ∃ target value, p value = true ∧ d = ⟨.command .jobs (.rpoplpush key target), .ok (some value)⟩ := by
  unfold takes at h
  split at h
  next source target value =>
    rw [Bool.and_eq_true, beq_iff_eq] at h
    exact ⟨target, value, h.2, by rw [h.1]⟩
  next => cases h

theorem exists_of_removes {d : Deed} (h : d.removes key p = true) :
    ∃ member, p member = true ∧ d = ⟨.command .jobs (.zrem key member), .ok true⟩ := by
  unfold removes at h
  split at h
  next k member =>
    rw [Bool.and_eq_true, beq_iff_eq] at h
    exact ⟨member, h.2, by rw [h.1]⟩
  next => cases h

end Deed

namespace Store

variable (key : String) (p : String → Bool)

theorem countP_removeFirst (value : String) (limit : Nat) (items : List String) :
    (removeFirst value limit items).countP p ≤ items.countP p := by
  induction items generalizing limit with
  | nil => cases limit <;> exact Nat.le_refl _
  | cons item items ih =>
    cases limit with
    | zero => exact Nat.le_refl _
    | succ limit =>
      unfold removeFirst
      split
      · exact Nat.le_trans (ih limit) (List.Sublist.countP_le (List.sublist_cons_self ..))
      · rw [List.countP_cons, List.countP_cons]
        exact Nat.add_le_add_right (ih (limit + 1)) _

/-- A text that is pushed is one more on its list. -/
theorem countP_put_cons (lists : Keyspace (List String)) (k value : String) :
    ((lists.put k (value :: lists.get k)).get key).countP p =
      (lists.get key).countP p + (k == key && p value).toNat := by
  by_cases hk : k = key
  · subst hk
    rw [Keyspace.get_put_self, List.countP_cons, beq_self_eq_true, Bool.true_and]
    cases p value <;> rfl
  · rw [Keyspace.get_put_of_ne _ _ (Ne.symm hk), beq_false_of_ne hk]
    rfl

/-- A text that is popped is one less on its list. -/
theorem countP_put_dropLast (lists : Keyspace (List String)) {k value : String}
    (h : (lists.get k).getLast? = some value) :
    ((lists.put k (lists.get k).dropLast).get key).countP p + (k == key && p value).toNat =
      (lists.get key).countP p := by
  by_cases hk : k = key
  · subst hk
    obtain ⟨front, hfront⟩ := List.getLast?_eq_some_iff.1 h
    rw [Keyspace.get_put_self, hfront, List.dropLast_concat, List.countP_append, beq_self_eq_true,
      Bool.true_and, List.countP_singleton]
    cases p value <;> rfl
  · rw [Keyspace.get_put_of_ne _ _ (Ne.symm hk), beq_false_of_ne hk]
    rfl

/-- A list under another key is as it was. -/
theorem countP_put_le (lists : Keyspace (List String)) (k : String) (items : List String) {put : Nat}
    (h : k = key → items.countP p ≤ (lists.get key).countP p + put) :
    ((lists.put k items).get key).countP p ≤ (lists.get key).countP p + put := by
  rw [Keyspace.get_put]
  split
  next heq => exact h heq.symm
  next => exact Nat.le_add_right ..

theorem countP_insertScored (x : Int × String) (set : List (Int × String)) :
    (insertScored x set).countP (fun y => p y.2) = set.countP (fun y => p y.2) + (p x.2).toNat := by
  rw [(insertScored_perm x set).countP_eq, List.countP_cons]
  cases p x.2 <;> rfl

theorem countP_withoutMember (member : String) (set : List (Int × String)) :
    (withoutMember member set).countP (fun x => p x.2) ≤ set.countP (fun x => p x.2) :=
  List.Sublist.countP_le List.filter_sublist

/-- A member that is removed is one less. -/
theorem countP_withoutMember_of_mem {member : String} {set : List (Int × String)}
    (h : ∃ score, (score, member) ∈ set) :
    (withoutMember member set).countP (fun x => p x.2) + (p member).toNat ≤
      set.countP (fun x => p x.2) := by
  obtain ⟨score, hmem⟩ := h
  obtain ⟨left, right, rfl⟩ := List.append_of_mem hmem
  have hleft := countP_withoutMember p member left
  have hright := countP_withoutMember p member right
  have hsplit : withoutMember member (left ++ (score, member) :: right) =
      withoutMember member left ++ withoutMember member right := by
    simp [withoutMember]
  rw [hsplit, List.countP_append, List.countP_append, List.countP_cons]
  cases hp : p member <;> simp <;> omega

/-- A command that sets a value leaves lists and sorted sets as they are. -/
theorem set_frame {now : Nat} {store store' : Store} {k value : String} {seconds : Nat} {b : Bool}
    (h : store.set now k value seconds = .ok (b, store')) :
    store'.lists = store.lists ∧ store'.sortedSets = store.sortedSets := by
  simp only [set] at h
  split at h
  · cases h
    exact ⟨rfl, rfl⟩
  · split at h
    · cases h
      exact ⟨rfl, rfl⟩
    · cases h

theorem sortedSets_rotate (store : Store) (source target : String) :
    (store.rotate source target).2.sortedSets = store.sortedSets := by
  unfold rotate
  split <;> rfl

/-- The texts of a kind on a list. -/
theorem accounts_list :
    Store.Accounts (fun store => (store.lists.get key).countP p) (Deed.puts key p) (Deed.takes key p) := by
  refine ⟨fun d hd => ?_, fun site c now store a store' h => ?_⟩
  · obtain ⟨target, value, -, rfl⟩ := Deed.exists_of_takes hd
    exact ⟨_, _, rfl⟩
  by_cases hverb : c.verb = .rpoplpush
  · cases c with
    | rpoplpush source target =>
      have hrotate := Except.ok.inj h
      cases hlast : (store.lists.get source).getLast? with
      | none =>
        rw [rotate_of_none hlast] at hrotate
        obtain ⟨rfl, rfl⟩ := Prod.mk.inj hrotate
        have htakes : Deed.takes key p ⟨.command site (.rpoplpush source target), .ok none⟩ = false := by
          cases site <;> rfl
        rw [htakes]
        exact Nat.le_add_right ..
      | some value =>
        obtain rfl : a = some value := by rw [← hlast, ← rotate_fst store source target, hrotate]
        have hstore : store' =
            (store.setList source (store.lists.get source).dropLast).pushFront target value := by
          rw [← rotate_of_some hlast, hrotate]
        have htakes : (Deed.takes key p ⟨.command site (.rpoplpush source target),
            .ok (some value)⟩).toNat ≤ (source == key && p value).toNat := by
          cases site
          · exact Nat.le_refl _
          · exact Nat.zero_le _
        have hpopped := countP_put_dropLast key p store.lists hlast
        have hpushed := countP_put_cons key p (store.lists.put source (store.lists.get source).dropLast)
          target value
        have hputs : Deed.puts key p ⟨.command site (.rpoplpush source target), .ok (some value)⟩ =
          (target == key && p value) := rfl
        rw [hstore, hputs, lists_pushFront, lists_setList, hpushed]
        omega
    | _ => cases hverb
  rw [Deed.takes_of_verb key p hverb, Bool.toNat_false, Nat.add_zero]
  cases c with
  | set k value seconds =>
    rw [(set_frame h).1]
    exact Nat.le_add_right ..
  | lpush k value =>
    cases h
    exact Nat.le_of_eq (countP_put_cons key p store.lists k value)
  | rpush k value =>
    cases h
    refine countP_put_le key p _ k _ fun hk => ?_
    cases hp : p value <;> simp [Deed.puts, hk, hp]
  | lrem k count value =>
    cases h
    refine countP_put_le key p _ k _ fun hk => ?_
    rw [hk]
    exact Nat.le_trans (countP_removeFirst p ..) (Nat.le_add_right ..)
  | rpoplpush => exact absurd rfl hverb
  | _ =>
    cases h
    exact Nat.le_add_right ..

/-- The members of a kind in a sorted set. -/
theorem accounts_sortedSet :
    Store.Accounts (fun store => (store.sortedSets.get key).countP fun x => p x.2)
      (Deed.schedules key p) (Deed.removes key p) := by
  refine ⟨fun d hd => ?_, fun site c now store a store' h => ?_⟩
  · obtain ⟨member, -, rfl⟩ := Deed.exists_of_removes hd
    exact ⟨_, _, rfl⟩
  by_cases hverb : c.verb = .zrem
  · cases c with
    | zrem k member =>
      simp only [run, Except.ok.injEq, Prod.mk.injEq] at h
      obtain ⟨ha, rfl⟩ := h
      rw [sortedSets_setSorted]
      by_cases hk : k = key
      · subst hk
        rw [Keyspace.get_put_self]
        cases a with
        | true =>
          have hmem := length_withoutMember_lt.1 (of_decide_eq_true ha)
          have hremoved := countP_withoutMember_of_mem p hmem
          have hremoves : (Deed.removes k p ⟨.command site (.zrem k member), .ok true⟩).toNat ≤
              (p member).toNat := by
            cases site
            · simp [Deed.removes]
            · exact Nat.zero_le _
          omega
        | false =>
          have hremoves : Deed.removes k p ⟨.command site (.zrem k member), .ok false⟩ = false := by
            cases site <;> rfl
          rw [hremoves]
          exact Nat.le_trans (countP_withoutMember ..) (Nat.le_add_right ..)
      · have hremoves : Deed.removes key p ⟨.command site (.zrem k member), .ok a⟩ = false := by
          refine Bool.eq_false_iff.2 fun hremoves => ?_
          obtain ⟨member', -, heq⟩ := Deed.exists_of_removes hremoves
          cases heq
          exact hk rfl
        rw [Keyspace.get_put_of_ne _ _ (Ne.symm hk), hremoves]
        exact Nat.le_add_right ..
    | _ => cases hverb
  rw [Deed.removes_of_verb key p hverb, Bool.toNat_false, Nat.add_zero]
  cases c with
  | set k value seconds =>
    rw [(set_frame h).2]
    exact Nat.le_add_right ..
  | rpoplpush source target =>
    have hrotate := Except.ok.inj h
    have hstore : store'.sortedSets = store.sortedSets := by
      rw [← sortedSets_rotate store source target, hrotate]
    rw [hstore]
    exact Nat.le_add_right ..
  | zadd k member score =>
    cases h
    rw [sortedSets_setSorted]
    by_cases hk : k = key
    · subst hk
      have hkept := countP_withoutMember p member (store.sortedSets.get k)
      rw [Keyspace.get_put_self, countP_insertScored]
      simp only [Deed.schedules, beq_self_eq_true, Bool.true_and]
      omega
    · rw [Keyspace.get_put_of_ne _ _ (Ne.symm hk)]
      exact Nat.le_add_right ..
  | zrem => exact absurd rfl hverb
  | _ =>
    cases h
    exact Nat.le_add_right ..

/-- No member is twice in a sorted set. -/
def IsDistinct (key : String) (store : Store) : Prop :=
  ((store.sortedSets.get key).map (·.2)).Nodup

theorem isDistinct_of_run {now : Nat} {store store' : Store} {c : Command} {a : c.Answer}
    (h : store.run now c = .ok (a, store')) (hstore : store.IsDistinct key) : store'.IsDistinct key := by
  have hput : ∀ k (set : List (Int × String)), (k = key → (set.map (·.2)).Nodup) →
      (store.setSorted k set).IsDistinct key := by
    intro k set hset
    rw [IsDistinct, sortedSets_setSorted, Keyspace.get_put]
    split
    next heq => exact hset heq.symm
    next => exact hstore
  have hwithout : ∀ member, ((withoutMember member (store.sortedSets.get key)).map (·.2)).Nodup :=
    fun member => hstore.sublist (List.filter_sublist.map _)
  cases c with
  | set k value seconds =>
    rw [IsDistinct, (set_frame h).2]
    exact hstore
  | rpoplpush source target =>
    have hsame : store'.sortedSets = store.sortedSets := by
      rw [← sortedSets_rotate store source target, Except.ok.inj h]
    rw [IsDistinct, hsame]
    exact hstore
  | zadd k member score =>
    cases h
    exact hput k _ fun hk => hk ▸ nodup_insertScored hstore score member
  | zrem k member =>
    cases h
    exact hput k _ fun hk => hk ▸ hwithout member
  | _ =>
    cases h
    exact hstore

end Store

/-- What every command leaves true of a store stays true of the store of the jobs. -/
theorem Scene.Reachable.store_keeps {C : Clients} {K : Conditions} {world : World} {s : Scene C}
    {P : Store → Prop} (h : Reachable K world s)
    (hrun : ∀ now c store a store', Store.run now store c = .ok (a, store') → P store → P store')
    (hP : P world.jobs.store) : P s.world.jobs.store := by
  induction h with
  | refl => exact hP
  | tail _ hstep ih =>
    cases hstep with
    | acts n op e next a left right happened =>
      exact happened.keeps (fun _ c now store a store' _ => hrun now c store a store') ih
    | breaks n op e next p left right happened =>
      exact happened.keeps (fun _ c now store a store' _ => hrun now c store a store') ih
    | drifts h =>
      cases h
      exact ih
    | _ => exact ih

end JobQueue
