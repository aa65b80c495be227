import JobQueue.Proofs.Store.Commands
import Mathlib.Data.List.Nodup
import Mathlib.Data.String.Basic

/-! The order of sorted sets. Members stand by their scores and those of one score by their texts, no member
stands there twice, and what adds members and takes them off keeps it so. -/

namespace JobQueue.Store

theorem scoredBefore_iff {x y : Int × String} :
    scoredBefore x y = true ↔ x.1 < y.1 ∨ x.1 = y.1 ∧ x.2 < y.2 := by
  simp [scoredBefore]

/-- Of two different members, one comes before the other. -/
theorem scoredBefore_total {x y : Int × String} (h : y.2 ≠ x.2) : scoredBefore x y = !scoredBefore y x := by
  obtain ⟨score, member⟩ := x
  obtain ⟨score', member'⟩ := y
  obtain hscore | rfl | hscore := lt_trichotomy score score'
  · simp [scoredBefore, hscore, hscore.ne', hscore.not_gt]
  · obtain hmember | hmember := lt_or_gt_of_ne h
    · simp [scoredBefore, hmember, hmember.not_gt]
    · simp [scoredBefore, hmember, hmember.not_gt]
  · simp [scoredBefore, hscore, hscore.ne', hscore.not_gt]

theorem scoredBefore_trans {x y z : Int × String} (hxy : scoredBefore x y = true)
    (hyz : scoredBefore y z = true) : scoredBefore x z = true := by
  rw [scoredBefore_iff] at hxy hyz ⊢
  rcases hxy with hxy | ⟨hscore, hxy⟩ <;> rcases hyz with hyz | ⟨hscore', hyz⟩
  · exact .inl (hxy.trans hyz)
  · exact .inl (hscore' ▸ hxy)
  · exact .inl (hscore ▸ hyz)
  · exact .inr ⟨hscore.trans hscore', hxy.trans hyz⟩

theorem insertScored_perm (x : Int × String) (set : List (Int × String)) :
    (insertScored x set).Perm (x :: set) := by
  induction set with
  | nil => exact .refl _
  | cons y set ih =>
    unfold insertScored
    split
    · exact .refl _
    · exact (ih.cons y).trans (.swap x y set)

/-- A member that gets a new score stands there once. -/
theorem nodup_insertScored {set : List (Int × String)} (h : (set.map (·.2)).Nodup) (score : Int)
    (member : String) : ((insertScored (score, member) (withoutMember member set)).map (·.2)).Nodup := by
  rw [((insertScored_perm _ _).map _).nodup_iff, List.map_cons, List.nodup_cons]
  refine ⟨fun hmem => ?_, h.sublist (List.filter_sublist.map _)⟩
  obtain ⟨x, hx, heq⟩ := List.mem_map.1 hmem
  exact (mem_withoutMember.1 hx).2 heq

/-- A new member is put where it belongs. -/
theorem pairwise_insertScored {x : Int × String} {set : List (Int × String)}
    (h : set.Pairwise fun y z => scoredBefore y z = true) (hnew : ∀ y ∈ set, y.2 ≠ x.2) :
    (insertScored x set).Pairwise fun y z => scoredBefore y z = true := by
  induction set with
  | nil => exact List.pairwise_singleton ..
  | cons y set ih =>
    obtain ⟨hy, hset⟩ := List.pairwise_cons.1 h
    obtain ⟨hne, hnew⟩ := List.forall_mem_cons.1 hnew
    unfold insertScored
    split
    next hbefore =>
      refine List.pairwise_cons.2 ⟨List.forall_mem_cons.2 ⟨hbefore, fun z hz => ?_⟩, h⟩
      exact scoredBefore_trans hbefore (hy z hz)
    next hafter =>
      refine List.pairwise_cons.2 ⟨fun z hz => ?_, ih hset hnew⟩
      rcases mem_insertScored.1 hz with rfl | hz
      · rw [scoredBefore_total hne.symm]
        simpa using hafter
      · exact hy z hz

/-- A sorted set as commands leave it: its members are in their order, no member stands there twice, and the
scores are words. -/
structure IsRanked (set : List (Int × String)) : Prop where
  ordered : set.Pairwise fun x y => scoredBefore x y = true
  distinct : (set.map (·.2)).Nodup
  least : ∀ x ∈ set, Word.signedMin64 ≤ x.1

namespace IsRanked

variable {set : List (Int × String)} (h : IsRanked set)

include h

theorem sublist {set' : List (Int × String)} (hsub : set'.Sublist set) : IsRanked set' :=
  ⟨h.ordered.sublist hsub, h.distinct.sublist (hsub.map _), fun x hx => h.least x (hsub.subset hx)⟩

theorem withoutMember (member : String) : IsRanked (Store.withoutMember member set) :=
  h.sublist List.filter_sublist

/-- A member gets a new score, or it is new. -/
theorem insert {score : Int} (hscore : Word.signedMin64 ≤ score) (member : String) :
    IsRanked (insertScored (score, member) (Store.withoutMember member set)) := by
  have hrest := h.withoutMember member
  have hnew : ∀ y ∈ Store.withoutMember member set, y.2 ≠ member := fun y hy => (mem_withoutMember.1 hy).2
  refine ⟨pairwise_insertScored hrest.ordered hnew, nodup_insertScored h.distinct score member,
    fun x hx => ?_⟩
  rcases mem_insertScored.1 hx with rfl | hx
  · exact hscore
  · exact hrest.least x hx

/-- A text tells the member. -/
theorem eq_of_mem {x y : Int × String} (hx : x ∈ set) (hy : y ∈ set) (htext : x.2 = y.2) : x = y :=
  List.inj_on_of_nodup_map h.distinct hx hy htext

/-- What is left when all members up to a score are taken off. -/
theorem filter_notMem (now : Int) :
    set.filter (fun x => x.2 ∉ (set.filter fun y => y.1 ≤ now).map (·.2)) = set.filter fun x => now < x.1 := by
  refine List.filter_congr fun x hx => ?_
  have hmem : x.2 ∈ (set.filter fun y => y.1 ≤ now).map (·.2) ↔ x.1 ≤ now := by
    constructor
    · intro hmem
      obtain ⟨y, hy, htext⟩ := List.mem_map.1 hmem
      obtain ⟨hy, hle⟩ := List.mem_filter.1 hy
      rw [← h.eq_of_mem hy hx htext]
      exact of_decide_eq_true hle
    · exact fun hle => List.mem_map_of_mem (List.mem_filter.2 ⟨hx, decide_eq_true hle⟩)
  rw [decide_eq_decide, hmem, Int.not_le]

/-- The members that a range from the least score lists are those up to its end. -/
theorem membersWithin_eq (now : Int) :
    membersWithin Word.signedMin64 now set = (set.filter fun x => x.1 ≤ now).map (·.2) := by
  refine congrArg (List.map _) (List.filter_congr fun x hx => ?_)
  rw [decide_eq_true (h.least x hx), Bool.true_and]

end IsRanked

end JobQueue.Store
