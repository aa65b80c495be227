import JobQueue.Proofs.Store.Commands
import JobQueue.Proofs.Store.Server

/-! What is left of a list from which occurrences of a value are removed. The store takes those that stand
nearest to the head, whatever sign the count has, while a server takes those nearest to the tail if the count is
negative. They leave the same list exactly if the count is not negative, if no occurrence is left, or if all of
them stand side by side. -/

namespace JobQueue.Store

variable {value : String} {number limit : Nat} {items kept : List String}

/-! ### Losses at an end of a list -/

/-- A list loses occurrences of a value at its head: up to some place all of them, and none behind it. -/
def LosesAtHead (value : String) (number : Nat) (items kept : List String) : Prop :=
  ∃ front back, items = front ++ back ∧ front.count value = number ∧
    kept = front.filter (· ≠ value) ++ back

/-- A list loses occurrences of a value at its tail: from some place on all of them, and none before it. -/
def LosesAtTail (value : String) (number : Nat) (items kept : List String) : Prop :=
  ∃ front back, items = front ++ back ∧ back.count value = number ∧
    kept = front ++ back.filter (· ≠ value)

/-- The tail of a list is the head of the same list backwards. -/
theorem losesAtTail_iff_reverse :
    LosesAtTail value number items kept ↔ LosesAtHead value number items.reverse kept.reverse := by
  constructor
  · rintro ⟨front, back, rfl, hcount, rfl⟩
    exact ⟨back.reverse, front.reverse, by simp, by simpa using hcount, by simp⟩
  · rintro ⟨front, back, hitems, hcount, hkept⟩
    refine ⟨back.reverse, front.reverse, ?_, by simpa using hcount, ?_⟩
    · simpa using congrArg List.reverse hitems
    · simpa using congrArg List.reverse hkept

theorem losesAtTail_all : LosesAtTail value (items.count value) items (items.filter (· ≠ value)) :=
  ⟨[], items, rfl, rfl, rfl⟩

theorem length_eq_count_add_filter (value : String) (items : List String) :
    items.length = items.count value + (items.filter (· ≠ value)).length := by
  rw [items.length_eq_countP_add_countP (· == value), List.count, ← List.countP_eq_length_filter]
  simp

namespace LosesAtHead

variable (h : LosesAtHead value number items kept)

include h

/-- What is left stands in its order. -/
theorem sublist : kept.Sublist items := by
  obtain ⟨front, back, rfl, -, rfl⟩ := h
  exact List.filter_sublist.append_right back

theorem filter_eq : kept.filter (· ≠ value) = items.filter (· ≠ value) := by
  obtain ⟨front, back, rfl, -, rfl⟩ := h
  simp

theorem count_add : kept.count value + number = items.count value := by
  obtain ⟨front, back, rfl, rfl, rfl⟩ := h
  have hnone : (front.filter (· ≠ value)).count value = 0 := List.count_eq_zero.2 (by simp)
  rw [List.count_append, List.count_append, hnone]
  omega

/-- A list gets shorter by what it loses. -/
theorem length_add : kept.length + number = items.length := by
  have hcount := h.count_add
  rw [length_eq_count_add_filter value kept, length_eq_count_add_filter value items, h.filter_eq]
  omega

end LosesAtHead

/-! ### What the store leaves -/

@[simp] theorem removeFirst_zero : removeFirst value 0 items = items := by
  simp [removeFirst]

@[simp] theorem removeFirst_nil : removeFirst value limit [] = [] := by
  cases limit <;> rfl

theorem removeFirst_cons_self :
    removeFirst value (limit + 1) (value :: items) = removeFirst value limit items := by
  simp [removeFirst]

theorem removeFirst_cons_of_ne {item : String} (h : item ≠ value) :
    removeFirst value limit (item :: items) = item :: removeFirst value limit items := by
  cases limit with
  | zero => simp
  | succ limit => simp [removeFirst, h]

/-- What the front of a list has left of the limit is for the rest. -/
theorem removeFirst_append (value : String) (limit : Nat) (front back : List String) :
    removeFirst value limit (front ++ back) =
      removeFirst value limit front ++ removeFirst value (limit - front.count value) back := by
  induction front generalizing limit with
  | nil => simp
  | cons item front ih =>
    by_cases hitem : item = value
    · subst hitem
      cases limit with
      | zero => simp
      | succ limit =>
        rw [List.cons_append, removeFirst_cons_self, removeFirst_cons_self, ih, List.count_cons_self,
          Nat.add_sub_add_right]
    · rw [List.cons_append, removeFirst_cons_of_ne hitem, removeFirst_cons_of_ne hitem, ih,
        List.count_cons_of_ne hitem, List.cons_append]

/-- The occurrences at the head are taken, as many as the limit allows and as there are. -/
theorem losesAtHead_removeFirst (value : String) (limit : Nat) (items : List String) :
    LosesAtHead value (min limit (items.count value)) items (removeFirst value limit items) := by
  induction items generalizing limit with
  | nil => exact ⟨[], [], by simp⟩
  | cons item items ih =>
    by_cases hitem : item = value
    · subst hitem
      cases limit with
      | zero => exact ⟨[], item :: items, by simp⟩
      | succ limit =>
        obtain ⟨front, back, hitems, hcount, hkept⟩ := ih limit
        refine ⟨item :: front, back, by rw [hitems, List.cons_append], ?_, ?_⟩
        · rw [List.count_cons_self, List.count_cons_self, hcount, Nat.add_min_add_right]
        · rw [removeFirst_cons_self, hkept, List.filter_cons_of_neg (by simp)]
    · obtain ⟨front, back, hitems, hcount, hkept⟩ := ih limit
      refine ⟨item :: front, back, by rw [hitems, List.cons_append], ?_, ?_⟩
      · rw [List.count_cons_of_ne hitem, List.count_cons_of_ne hitem, hcount]
      · rw [removeFirst_cons_of_ne hitem, hkept, List.filter_cons_of_pos (by simpa using hitem),
          List.cons_append]

theorem count_removeFirst (value : String) (limit : Nat) (items : List String) :
    (removeFirst value limit items).count value = items.count value - limit := by
  have hcount := (losesAtHead_removeFirst value limit items).count_add
  omega

theorem removeFirst_of_count_le (h : items.count value ≤ limit) :
    removeFirst value limit items = items.filter (· ≠ value) := by
  rw [← (losesAtHead_removeFirst value limit items).filter_eq, eq_comm, List.filter_eq_self]
  intro item hitem
  have hnone : value ∉ removeFirst value limit items := by
    rw [← List.count_eq_zero, count_removeFirst]
    omega
  simpa using ne_of_mem_of_not_mem hitem hnone

/-- A list can lose a number of occurrences at its head in one way only. -/
theorem LosesAtHead.eq_removeFirst (h : LosesAtHead value number items kept) :
    kept = removeFirst value number items := by
  obtain ⟨front, back, rfl, rfl, rfl⟩ := h
  rw [removeFirst_append, removeFirst_of_count_le (Nat.le_refl _), Nat.sub_self, removeFirst_zero]

theorem losesAtHead_min_iff :
    LosesAtHead value (min limit (items.count value)) items kept ↔ kept = removeFirst value limit items := by
  have hloses := losesAtHead_removeFirst value limit items
  constructor
  · intro h
    rw [h.eq_removeFirst, hloses.eq_removeFirst]
  · rintro rfl
    exact hloses

/-! ### Occurrences side by side -/

/-- The occurrences of a value stand side by side: what stands between two of them is another one. -/
def StandsTogether (value : String) (items : List String) : Prop :=
  ∀ item, [value, item, value].Sublist items → item = value

theorem exists_of_between {item : String} (h : [value, item, value].Sublist items) :
    ∃ front back, items = front ++ item :: back ∧ value ∈ front ∧ value ∈ back := by
  obtain ⟨before, rest, rfl, hbefore, hrest⟩ := List.cons_sublist_iff.1 h
  obtain ⟨upTo, after, rfl, hitem, hafter⟩ := List.cons_sublist_iff.1 hrest
  obtain ⟨left, right, rfl⟩ := List.append_of_mem hitem
  refine ⟨before ++ left, right ++ after, by simp, List.mem_append_left _ hbefore, ?_⟩
  exact List.mem_append_right _ (List.singleton_sublist.1 hafter)

/-- If no other item comes before an occurrence, all of them are at the head. -/
theorem exists_replicate_append (h : ∀ item, [item, value].Sublist items → item = value) :
    ∃ after, value ∉ after ∧ items = List.replicate (items.count value) value ++ after := by
  induction items with
  | nil => exact ⟨[], by simp⟩
  | cons item items ih =>
    by_cases hitem : item = value
    · subst hitem
      obtain ⟨after, hafter, hitems⟩ := ih fun x hx => h x (hx.cons item)
      refine ⟨after, hafter, ?_⟩
      rw [List.count_cons_self, List.replicate_succ, List.cons_append, ← hitems]
    · have hnone : value ∉ item :: items := by
        refine List.not_mem_cons_of_ne_of_not_mem (Ne.symm hitem) fun hmem => hitem ?_
        exact h item ((List.singleton_sublist.2 hmem).cons_cons item)
      exact ⟨item :: items, hnone, by rw [List.count_eq_zero.2 hnone, List.replicate_zero, List.nil_append]⟩

/-- Occurrences that stand side by side have the other items before and after them. -/
theorem StandsTogether.exists_append (h : StandsTogether value items) :
    ∃ before after, value ∉ before ∧ value ∉ after ∧
      items = before ++ (List.replicate (items.count value) value ++ after) := by
  induction items with
  | nil => exact ⟨[], [], by simp⟩
  | cons item items ih =>
    by_cases hitem : item = value
    · subst hitem
      obtain ⟨after, hafter, hitems⟩ := exists_replicate_append fun x hx => h x (hx.cons_cons item)
      refine ⟨[], after, List.not_mem_nil, hafter, ?_⟩
      rw [List.count_cons_self, List.replicate_succ, List.cons_append, ← hitems, List.nil_append]
    · obtain ⟨before, after, hbefore, hafter, hitems⟩ := ih fun x hx => h x (hx.cons item)
      refine ⟨item :: before, after, List.not_mem_cons_of_ne_of_not_mem (Ne.symm hitem) hbefore, hafter, ?_⟩
      rw [List.count_cons_of_ne hitem, List.cons_append, ← hitems]

theorem eq_nil_of_cons_eq_append {item : String} {front more back back' : List String} (hitem : item ≠ value)
    (h : item :: back = more ++ item :: back')
    (hfilter : (front ++ more).filter (· ≠ value) = front.filter (· ≠ value)) : more = [] := by
  cases more with
  | nil => rfl
  | cons x more =>
    obtain ⟨rfl, -⟩ := List.cons.inj h
    simp [hitem] at hfilter

/-- An item that comes after the same other items stands at the same place. -/
theorem eq_of_append_cons_eq {item : String} {front front' back back' : List String} (hitem : item ≠ value)
    (h : front ++ item :: back = front' ++ item :: back')
    (hfilter : front.filter (· ≠ value) = front'.filter (· ≠ value)) : front = front' := by
  -- The longer of the two would have the item once more.
  obtain ⟨more, rfl, hmore⟩ | ⟨more, rfl, hmore⟩ := List.append_eq_append_iff.1 h
  · rw [eq_nil_of_cons_eq_append hitem hmore hfilter.symm, List.append_nil]
  · rw [eq_nil_of_cons_eq_append hitem hmore hfilter, List.append_nil]

/-- Before another item, what is taken at the head is missing. -/
theorem LosesAtHead.exists_append_cons {item : String} {front back : List String}
    (h : LosesAtHead value number (front ++ item :: back) kept) (hitem : item ≠ value) :
    ∃ front' back', kept = front' ++ item :: back' ∧
      front'.filter (· ≠ value) = front.filter (· ≠ value) ∧
      front'.count value = front.count value - number := by
  have hkept := h.eq_removeFirst
  rw [removeFirst_append, removeFirst_cons_of_ne hitem] at hkept
  exact ⟨_, _, hkept, (losesAtHead_removeFirst ..).filter_eq, count_removeFirst ..⟩

/-- Before another item, only that is missing which is not taken behind it. -/
theorem LosesAtTail.exists_append_cons {item : String} {front back : List String}
    (h : LosesAtTail value number (front ++ item :: back) kept) (hitem : item ≠ value) :
    ∃ front' back', kept = front' ++ item :: back' ∧
      front'.filter (· ≠ value) = front.filter (· ≠ value) ∧
      front'.count value = front.count value - (number - back.count value) := by
  have hkept := (losesAtTail_iff_reverse.1 h).eq_removeFirst
  rw [List.reverse_append, List.reverse_cons, List.append_assoc, List.singleton_append, removeFirst_append,
    removeFirst_cons_of_ne hitem, List.count_reverse] at hkept
  let front' := removeFirst value (number - back.count value) front.reverse
  refine ⟨front'.reverse, (removeFirst value number back.reverse).reverse, ?_, ?_, ?_⟩
  · simpa using congrArg List.reverse hkept
  · rw [List.filter_reverse, (losesAtHead_removeFirst ..).filter_eq, List.filter_reverse, List.reverse_reverse]
  · rw [List.count_reverse, count_removeFirst, List.count_reverse]

/-- A list that loses some occurrences, and for which it does not show at which end, has them side by side: before
any other item between two of them, different numbers would be left. -/
theorem standsTogether_of_loses (hhead : LosesAtHead value number items kept)
    (htail : LosesAtTail value number items kept) (hsome : 0 < number) (hleft : number < items.count value) :
    StandsTogether value items := by
  intro item hbetween
  by_contra hitem
  obtain ⟨front, back, rfl, hfront, hback⟩ := exists_of_between hbetween
  obtain ⟨first, rest, rfl, hfirst, hcount⟩ := hhead.exists_append_cons hitem
  obtain ⟨first', rest', hkept, hfirst', hcount'⟩ := htail.exists_append_cons hitem
  obtain rfl : first = first' := eq_of_append_cons_eq hitem hkept (hfirst.trans hfirst'.symm)
  have hfront := List.count_pos_iff.2 hfront
  have hback := List.count_pos_iff.2 hback
  rw [List.count_append, List.count_cons_of_ne hitem] at hleft
  -- What is left before the item is the same number for both ends, with occurrences on either side of it.
  omega

/-- Behind items of which none is an occurrence, occurrences are taken off the front of those that follow. -/
theorem losesAtHead_replicate {before : List String} (hbefore : value ∉ before) (number left : Nat)
    (after : List String) :
    LosesAtHead value number (before ++ (List.replicate (number + left) value ++ after))
      (before ++ (List.replicate left value ++ after)) := by
  refine ⟨before ++ List.replicate number value, List.replicate left value ++ after, ?_, ?_, ?_⟩
  · rw [List.replicate_add, List.append_assoc, List.append_assoc]
  · rw [List.count_append, List.count_eq_zero.2 hbefore, List.count_replicate_self, Nat.zero_add]
  · have hnone : (List.replicate number value).filter (· ≠ value) = [] := by simp
    have hall : before.filter (· ≠ value) = before :=
      List.filter_eq_self.2 fun item hitem => by simpa using ne_of_mem_of_not_mem hitem hbefore
    rw [List.filter_append, hnone, hall, List.append_nil]

/-- Of occurrences side by side, it does not show which are taken. -/
theorem StandsTogether.losesAtTail (htogether : StandsTogether value items)
    (h : LosesAtHead value number items kept) : LosesAtTail value number items kept := by
  obtain ⟨before, after, hbefore, hafter, hitems⟩ := htogether.exists_append
  rw [← h.count_add, Nat.add_comm] at hitems
  have hhead := losesAtHead_replicate hbefore number (kept.count value) after
  have htail := losesAtHead_replicate (List.mem_reverse.not.2 hafter) number (kept.count value) before.reverse
  rw [← hitems] at hhead
  rw [h.eq_removeFirst, ← hhead.eq_removeFirst, losesAtTail_iff_reverse, hitems]
  simpa using htail

/-! ### Counts -/

/-- How many occurrences of a value a count removes: all of them for zero, and otherwise as many as it says,
with either sign, if there are so many. -/
def removedNumber (count : Int) (value : String) (items : List String) : Nat :=
  if count = 0 then items.count value else min count.natAbs (items.count value)

/-- A list loses as many occurrences of a value as a count says, at its tail if the count is negative. -/
def LosesByCount (count : Int) (value : String) (items kept : List String) : Prop :=
  if count < 0 then LosesAtTail value (removedNumber count value items) items kept
  else LosesAtHead value (removedNumber count value items) items kept

variable {count : Int}

theorem removedNumber_eq_min (count : Int) (value : String) (items : List String) :
    removedNumber count value items = min (removalLimit count items) (items.count value) := by
  unfold removedNumber removalLimit
  split
  · exact (Nat.min_eq_right List.count_le_length).symm
  · rfl

theorem removedNumber_reverse (count : Int) (value : String) (items : List String) :
    removedNumber count value items.reverse = removedNumber count value items := by
  rw [removedNumber, removedNumber, List.count_reverse]

theorem losesAtHead_removedNumber_iff :
    LosesAtHead value (removedNumber count value items) items kept ↔
      kept = removeFirst value (removalLimit count items) items := by
  rw [removedNumber_eq_min, losesAtHead_min_iff]

theorem removeFirst_erase (value : String) (limit : Nat) (items : List String) :
    removeFirst value limit (items.erase value) = removeFirst value (limit + 1) items := by
  induction items with
  | nil => simp
  | cons item items ih =>
    by_cases hitem : item = value
    · subst hitem
      rw [List.erase_cons_head, removeFirst_cons_self]
    · rw [List.erase_cons_tail (by simpa using hitem), removeFirst_cons_of_ne hitem,
        removeFirst_cons_of_ne hitem, ih]

/-- To erase the first occurrence again and again is to remove so many. -/
theorem iterate_erase (value : String) (limit : Nat) (items : List String) :
    (fun items : List String => items.erase value)^[limit] items = removeFirst value limit items := by
  induction limit generalizing items with
  | zero => simp
  | succ limit ih => rw [Function.iterate_succ_apply, ih, removeFirst_erase]

/-- A server takes the occurrences at the end that the sign of the count tells. -/
theorem losesByCount_iff_eq_without :
    LosesByCount count value items kept ↔ kept = StoreServer.without count value items := by
  obtain hneg | rfl | hpos := lt_trichotomy count 0
  · have hlimit : removalLimit count items.reverse = count.natAbs := if_neg hneg.ne
    have hserver : StoreServer.without count value items =
        (removeFirst value count.natAbs items.reverse).reverse := by
      rw [StoreServer.without, if_neg hneg.ne, if_neg hneg.not_gt, iterate_erase]
    rw [LosesByCount, if_pos hneg, losesAtTail_iff_reverse, ← removedNumber_reverse,
      losesAtHead_removedNumber_iff, hlimit, hserver, List.reverse_eq_iff]
  · have hlimit : removalLimit 0 items = items.length := if_pos rfl
    have hserver : StoreServer.without 0 value items = items.filter (· ≠ value) := by
      rw [StoreServer.without, if_pos rfl]
    rw [LosesByCount, if_neg (Int.lt_irrefl 0), losesAtHead_removedNumber_iff, hlimit, hserver,
      removeFirst_of_count_le List.count_le_length]
  · have hlimit : removalLimit count items = count.natAbs := if_neg hpos.ne'
    have hserver : StoreServer.without count value items = removeFirst value count.natAbs items := by
      rw [StoreServer.without, if_neg hpos.ne', if_pos hpos, iterate_erase]
    rw [LosesByCount, if_neg hpos.not_gt, losesAtHead_removedNumber_iff, hlimit, hserver]

/-- Occurrences taken at the head are those that the sign of the count asks for exactly if it asks for the head, if
all of them are taken, or if it does not show which ones are. -/
theorem LosesAtHead.losesByCount_iff (h : LosesAtHead value (removedNumber count value items) items kept) :
    LosesByCount count value items kept ↔
      0 ≤ count ∨ items.count value ≤ count.natAbs ∨ StandsTogether value items := by
  unfold LosesByCount
  split
  next hneg =>
    have hnumber : removedNumber count value items = min count.natAbs (items.count value) := if_neg hneg.ne
    by_cases hall : items.count value ≤ count.natAbs
    · refine iff_of_true ?_ (.inr (.inl hall))
      rw [hnumber, Nat.min_eq_right hall] at h ⊢
      rw [h.eq_removeFirst, removeFirst_of_count_le (Nat.le_refl _)]
      exact losesAtTail_all
    · have hsome : 0 < removedNumber count value items := by omega
      have hleft : removedNumber count value items < items.count value := by omega
      constructor
      · intro htail
        exact .inr (.inr (standsTogether_of_loses h htail hsome hleft))
      · rintro (hnonneg | hle | htogether)
        · exact absurd hnonneg hneg.not_ge
        · exact absurd hle hall
        · exact htogether.losesAtTail h
  next hnonneg => exact iff_of_true h (.inl (Int.not_lt.1 hnonneg))

/-- For every list, value and count, the command answers how many occurrences it has removed, which is what the
count says; the rest of the list stays in its order, and all else is as it was. The occurrences removed are those
nearest to the head. What the sign of the count asks for is one list, the one that a server leaves, and the command
leaves it exactly if the count is not negative, if no occurrence is left, or if all of them stand side by side. -/
theorem removes_at_head (now : Nat) (store : Store) (key value : String) (count : Int) :
    let items := store.lists.get key
    let number := removedNumber count value items
    ∃ kept, store.run now (.lrem key count value) = .ok (number, store.setList key kept) ∧
      kept.Sublist items ∧
      LosesAtHead value number items kept ∧
      (∀ left, LosesByCount count value items left ↔ left = StoreServer.without count value items) ∧
      (LosesByCount count value items kept ↔
        0 ≤ count ∨ items.count value ≤ count.natAbs ∨ StandsTogether value items) := by
  intro items number
  let kept := removeFirst value (removalLimit count items) items
  have hloses : LosesAtHead value number items kept := by
    rw [show number = _ from removedNumber_eq_min count value items]
    exact losesAtHead_removeFirst value (removalLimit count items) items
  have hnumber : items.length - kept.length = number := by
    have hlength := hloses.length_add
    omega
  refine ⟨kept, ?_, hloses.sublist, hloses, fun left => losesByCount_iff_eq_without, hloses.losesByCount_iff⟩
  rw [← hnumber]
  rfl

/-! ### Fixed inputs -/

/-- A list with two occurrences of a text and another one between them. -/
def sampleApart : Store :=
  ((empty.pushBack "l" "a").pushBack "l" "b").pushBack "l" "a"

/-- A negative count removes the occurrence at the head, although the one at the tail is asked for. -/
theorem sample_removed_at_head :
    sampleApart.run 0 (.lrem "l" (-1) "a") = .ok (1, sampleApart.setList "l" ["b", "a"]) ∧
    ¬ LosesByCount (-1) "a" (sampleApart.lists.get "l") ["b", "a"] := by
  constructor
  · rfl
  · rw [losesByCount_iff_eq_without]
    decide

end JobQueue.Store
