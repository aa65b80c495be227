import JobQueue.Proofs.Store.Flow
import JobQueue.Proofs.Store.Ranking
import JobQueue.Proofs.Text.Bytes
import JobQueue.Proofs.Text.Numeral

/-! What the sorted sets hold after any commands: every member that was added and not removed since, once, with
the score it was last given, in the order of the scores and of the bytes of the members. A range up to a number
is the members up to that score, as long as 64 bits can hold the number. -/

namespace JobQueue

/-- The score of a member under a key after a command, given the one before it. -/
def Command.rescored (key member : String) : Command → Option Int → Option Int
  | .zadd k m score, before => if k = key ∧ m = member then some score else before
  | .zrem k m, before => if k = key ∧ m = member then none else before
  | _, before => before

/-- The score of a command, if it gives one, has 64 bits. -/
def Command.HasWord : Command → Prop
  | .zadd _ _ score => Word.signedMin64 ≤ score ∧ score ≤ Word.signedMax64
  | _ => True

namespace Store

/-- The store after commands, each at its time, the last of which comes first. One that panics changes
nothing. -/
def afterAll : List (Nat × Command) → Store
  | [] => empty
  | (now, c) :: earlier =>
    match (afterAll earlier).run now c with
    | .ok (_, store) => store
    | .error _ => afterAll earlier

/-- The score with which a member was last added, unless it was removed since. -/
def lastScore? (key member : String) : List (Nat × Command) → Option Int
  | [] => none
  | (_, c) :: earlier => c.rescored key member (lastScore? key member earlier)

variable {now : Nat} {store store' : Store} {c : Command} {a : c.Answer} {key : String}

/-! ### One command -/

/-- What a command does to the sorted set under a key: it scores a member, removes one, or leaves all as it is. -/
inductive Rescores (key : String) (set : List (Int × String)) : Command → List (Int × String) → Prop where
  | added (member : String) (score : Int) :
      Rescores key set (.zadd key member score) (insertScored (score, member) (withoutMember member set))
  | removed (member : String) : Rescores key set (.zrem key member) (withoutMember member set)
  | kept (c : Command) (h : ∀ member before, c.rescored key member before = before) : Rescores key set c set

theorem rescores_of_run (h : store.run now c = .ok (a, store')) (key : String) :
    Rescores key (store.sortedSets.get key) c (store'.sortedSets.get key) := by
  cases c with
  | zadd k member score =>
    cases h
    by_cases hkey : k = key
    · subst hkey
      rw [sortedSets_setSorted, Keyspace.get_put_self]
      exact .added member score
    · rw [sortedSets_setSorted, Keyspace.get_put_of_ne _ _ (Ne.symm hkey)]
      exact .kept _ fun _ _ => if_neg fun h => hkey h.1
  | zrem k member =>
    cases h
    by_cases hkey : k = key
    · subst hkey
      rw [sortedSets_setSorted, Keyspace.get_put_self]
      exact .removed member
    · rw [sortedSets_setSorted, Keyspace.get_put_of_ne _ _ (Ne.symm hkey)]
      exact .kept _ fun _ _ => if_neg fun h => hkey h.1
  | set k value seconds =>
    rw [(set_frame h).2]
    exact .kept _ fun _ _ => rfl
  | rpoplpush source target =>
    have hrotate : store' = (store.rotate source target).2 := by rw [Except.ok.inj h]
    rw [hrotate, sortedSets_rotate]
    exact .kept _ fun _ _ => rfl
  | _ =>
    cases h
    exact .kept _ fun _ _ => rfl

namespace Rescores

variable {set set' : List (Int × String)}

/-- Members keep their order. -/
theorem isRanked (h : Rescores key set c set') (hword : c.HasWord) (hranked : IsRanked set) :
    IsRanked set' := by
  cases h with
  | added member score => exact hranked.insert hword.1 member
  | removed member => exact hranked.withoutMember member
  | kept => exact hranked

/-- A member has the score that it was given, and all others keep theirs. -/
theorem mem_iff (h : Rescores key set c set') {last : String → Option Int}
    (hlast : ∀ score member, (score, member) ∈ set ↔ last member = some score) (score : Int) (member : String) :
    (score, member) ∈ set' ↔ c.rescored key member (last member) = some score := by
  cases h with
  | added m new =>
    rw [mem_insertScored, mem_withoutMember, hlast, Command.rescored]
    by_cases hmember : m = member
    · subst hmember
      simp [eq_comm]
    · simp [hmember, Ne.symm hmember]
  | removed m =>
    rw [mem_withoutMember, hlast, Command.rescored]
    by_cases hmember : m = member
    · simp [hmember]
    · simp [hmember, Ne.symm hmember]
  | kept _ hkept => rw [hlast, hkept]

end Rescores

/-! ### Any number of commands -/

/-- A command changes the sorted set under a key as its kind does, also if it panics. -/
theorem rescores_afterAll (now : Nat) (c : Command) (earlier : List (Nat × Command)) (key : String) :
    Rescores key ((afterAll earlier).sortedSets.get key) c
      ((afterAll ((now, c) :: earlier)).sortedSets.get key) := by
  rw [afterAll]
  cases hrun : (afterAll earlier).run now c with
  | ok result => exact rescores_of_run hrun key
  | error p =>
    -- Only to set a value can panic.
    cases c with
    | set => exact .kept _ fun _ _ => rfl
    | _ => cases hrun

variable {commands : List (Nat × Command)}

theorem isRanked_afterAll (hwords : ∀ x ∈ commands, x.2.HasWord) (key : String) :
    IsRanked ((afterAll commands).sortedSets.get key) := by
  induction commands with
  | nil => exact ⟨.nil, List.nodup_nil, nofun⟩
  | cons x earlier ih =>
    obtain ⟨hword, hearlier⟩ := List.forall_mem_cons.1 hwords
    exact (rescores_afterAll x.1 x.2 earlier key).isRanked hword (ih hearlier)

theorem mem_afterAll (commands : List (Nat × Command)) (key : String) (score : Int) (member : String) :
    (score, member) ∈ (afterAll commands).sortedSets.get key ↔ lastScore? key member commands = some score := by
  induction commands generalizing score member with
  | nil => simp [afterAll, empty, lastScore?]
  | cons x earlier ih => exact (rescores_afterAll x.1 x.2 earlier key).mem_iff ih score member

/-- The last score of a member is one that was given. -/
theorem lastScore?_hasWord {score : Int} {member : String} (hwords : ∀ x ∈ commands, x.2.HasWord)
    (h : lastScore? key member commands = some score) : Word.signedMin64 ≤ score ∧ score ≤ Word.signedMax64 := by
  induction commands with
  | nil => cases h
  | cons x earlier ih =>
    obtain ⟨hword, hearlier⟩ := List.forall_mem_cons.1 hwords
    obtain ⟨now, c⟩ := x
    rw [lastScore?] at h
    cases c with
    | zadd k m new =>
      rw [Command.rescored] at h
      split at h
      · cases h
        exact hword
      · exact ih hearlier h
    | zrem k m =>
      rw [Command.rescored] at h
      split at h
      · cases h
      · exact ih hearlier h
    | _ => exact ih hearlier h

/-- The members in a range from no bound to a number. A number below all words has no bound of its own. -/
theorem membersWithin_intDigits (hwords : ∀ x ∈ commands, x.2.HasWord) (key : String) (bound : Int) :
    let set := (afterAll commands).sortedSets.get key
    membersWithin (boundScore "-inf") (boundScore (String.ofList (Text.intDigits bound))) set =
      if Word.signedMin64 ≤ bound then (set.filter fun x => x.1 ≤ bound).map (·.2) else set.map (·.2) := by
  intro set
  have hrange : ∀ x ∈ set, Word.signedMin64 ≤ x.1 ∧ x.1 ≤ Word.signedMax64 := by
    intro x hx
    exact lastScore?_hasWord hwords ((mem_afterAll commands key x.1 x.2).1 hx)
  have hunbounded : boundScore "-inf" = Word.signedMin64 := rfl
  rw [hunbounded, (isRanked_afterAll hwords key).membersWithin_eq]
  have hall : ∀ high : Int, Word.signedMax64 ≤ high → set.filter (fun x => x.1 ≤ high) = set := by
    intro high hhigh
    exact List.filter_eq_self.2 fun x hx => decide_eq_true (Int.le_trans (hrange x hx).2 hhigh)
  split
  next hleast =>
    by_cases hmost : bound ≤ Word.signedMax64
    · rw [boundScore_intDigits hleast hmost]
    · have hbound : Word.signedMax64 ≤ bound := by omega
      rw [boundScore_intDigits_of_outside (.inr (by omega)), hall _ (Int.le_refl _), hall _ hbound]
  next hbelow => rw [boundScore_intDigits_of_outside (.inl (by omega)), hall _ (Int.le_refl _)]

/-- After any commands, a sorted set has exactly the members that were added and not removed since, each once and
with its last score, in the order of scores and bytes. To remove a member tells whether it was there, and a
range up to a number gives the members up to that score in their order, unless the number lies below all
scores of 64 bits: then it gives all members. -/
theorem sorted_by_last_scores (commands : List (Nat × Command)) (hwords : ∀ x ∈ commands, x.2.HasWord)
    (key : String) :
    let store := afterAll commands
    let set := store.sortedSets.get key
    (set.Pairwise fun x y => x.1 < y.1 ∨ x.1 = y.1 ∧ Text.bytes x.2 < Text.bytes y.2) ∧
    (set.map (·.2)).Nodup ∧
    (∀ score member, (score, member) ∈ set ↔ lastScore? key member commands = some score) ∧
    (∀ now member, ∃ removed store', store.run now (.zrem key member) = .ok (removed, store') ∧
      (removed = true ↔ ∃ score, (score, member) ∈ set)) ∧
    ∀ now (bound : Int), store.run now (.zrangebyscore key "-inf" (String.ofList (Text.intDigits bound))) =
      .ok (if Word.signedMin64 ≤ bound then (set.filter fun x => x.1 ≤ bound).map (·.2) else set.map (·.2),
        store) := by
  intro store set
  have hranked : IsRanked set := isRanked_afterAll hwords key
  refine ⟨hranked.ordered.imp fun {x y} hbefore => ?_, hranked.distinct, mem_afterAll commands key,
    fun now member => ⟨_, _, rfl, ?_⟩, fun now bound => ?_⟩
  · simpa only [Text.bytes_lt_iff] using scoredBefore_iff.1 hbefore
  · rw [decide_eq_true_iff]
    exact length_withoutMember_lt
  · rw [← membersWithin_intDigits hwords key bound]
    rfl

/-! ### Fixed inputs -/

/-- A member gets the least score, another one is scored twice, and a third one is removed. -/
def sampleScored : List (Nat × Command) :=
  [(0, .zrem "z" "c"), (0, .zadd "z" "b" (-5)), (0, .zadd "z" "c" 1), (0, .zadd "z" "b" 7),
    (0, .zadd "z" "a" Word.signedMin64)]

theorem sample_sorted_by_scores : (∀ x ∈ sampleScored, x.2.HasWord) ∧
    (afterAll sampleScored).sortedSets.get "z" = [(Word.signedMin64, "a"), (-5, "b")] ∧
    lastScore? "z" "b" sampleScored = some (-5) ∧
    (afterAll sampleScored).run 0 (.zrangebyscore "z" "-inf" (String.ofList (Text.intDigits (-6)))) =
      .ok (["a"], afterAll sampleScored) := by
  have hwords : ∀ x ∈ sampleScored, x.2.HasWord := by
    intro x hx
    simp only [sampleScored, List.mem_cons, List.not_mem_nil, or_false] at hx
    obtain rfl | rfl | rfl | rfl | rfl := hx <;> simp [Command.HasWord]
  obtain ⟨-, -, hscores, -, hrange⟩ := sorted_by_last_scores sampleScored hwords "z"
  have hset : (afterAll sampleScored).sortedSets.get "z" = [(Word.signedMin64, "a"), (-5, "b")] := by
    decide +kernel
  have hmem : (-5, "b") ∈ (afterAll sampleScored).sortedSets.get "z" := by simp [hset]
  refine ⟨hwords, hset, (hscores (-5) "b").1 hmem, ?_⟩
  rw [hrange 0 (-6), hset]
  rfl

/-- A range up to a number that lies one below all scores has a member, although no member has such a score. -/
theorem sample_range_below_scores :
    (afterAll sampleScored).run 0
        (.zrangebyscore "z" "-inf" (String.ofList (Text.intDigits (Word.signedMin64 - 1)))) =
      .ok (["a", "b"], afterAll sampleScored) ∧
    ((afterAll sampleScored).sortedSets.get "z").filter (fun x => x.1 ≤ Word.signedMin64 - 1) = [] := by
  have hset : (afterAll sampleScored).sortedSets.get "z" = [(Word.signedMin64, "a"), (-5, "b")] := by
    decide +kernel
  have hbound : boundScore (String.ofList (Text.intDigits (Word.signedMin64 - 1))) = Word.signedMax64 :=
    boundScore_intDigits_of_outside (.inl (by decide))
  constructor
  · rw [run, hset, hbound]
    rfl
  · rw [hset]
    rfl

end Store

end JobQueue
