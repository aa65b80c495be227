import JobQueue.Text.Blank
import Mathlib.Data.List.DropRight

/-! Trimmed texts. What is left of a text once it is trimmed is the part between the blanks at its ends; a
text without blanks there stays as it is, and nothing is left of a text of blanks. -/

namespace JobQueue.Text

/-- A text that neither starts nor ends with a blank. -/
def IsBare (s : String) : Prop :=
  (∀ c ∈ s.toList.head?, isBlank c = false) ∧ ∀ c ∈ s.toList.getLast?, isBlank c = false

/-- A part of a text with nothing but blanks around it, and none at its own ends. -/
structure IsCore (s core : String) : Prop where
  between : ∃ before after : List Char, s.toList = before ++ core.toList ++ after ∧
    (∀ c ∈ before, isBlank c) ∧ ∀ c ∈ after, isBlank c
  bare : IsBare core

theorem toList_trim (s : String) :
    (trim s).toList = (s.toList.dropWhile isBlank).rdropWhile isBlank := by
  simp [trim, trimChars, dropBlank, List.rdropWhile]

theorem isBare_trim (s : String) : IsBare (trim s) := by
  unfold IsBare
  rw [toList_trim]
  have hfirst := List.head?_dropWhile_not isBlank s.toList
  generalize s.toList.dropWhile isBlank = cs at hfirst ⊢
  refine ⟨fun c hc => ?_, fun c hc => ?_⟩
  · obtain ⟨after, hcs⟩ := cs.rdropWhile_prefix isBlank
    rw [← hcs, List.head?_append, hc] at hfirst
    exact hfirst
  · obtain ⟨hne, rfl⟩ := List.mem_getLast?_eq_getLast hc
    simpa using cs.rdropWhile_last_not isBlank hne

theorem isCore_trim (s : String) : IsCore s (trim s) where
  between := by
    refine ⟨s.toList.takeWhile isBlank, (s.toList.dropWhile isBlank).rtakeWhile isBlank, ?_,
      fun c hc => List.mem_takeWhile_imp hc, fun c hc => List.mem_rtakeWhile_imp hc⟩
    rw [toList_trim, List.append_assoc, List.rdropWhile_append_rtakeWhile, List.takeWhile_append_dropWhile]
  bare := isBare_trim s

/-- Blanks are dropped as far as there are any. -/
theorem dropWhile_blanks {before core : List Char} (hbefore : ∀ c ∈ before, isBlank c)
    (hcore : ∀ c ∈ core.head?, isBlank c = false) : (before ++ core).dropWhile isBlank = core := by
  rw [List.dropWhile_append_of_pos hbefore]
  cases core with
  | nil => rfl
  | cons c core => simp [hcore c rfl]

theorem IsCore.trim_eq {s core : String} (h : IsCore s core) : trim s = core := by
  obtain ⟨before, after, hs, hbefore, hafter⟩ := h.between
  apply String.toList_injective
  rw [toList_trim, hs]
  by_cases hcore : core.toList = []
  · have hblank : ∀ c ∈ before ++ core.toList ++ after, isBlank c := by
      simpa [hcore, or_imp, forall_and] using ⟨hbefore, hafter⟩
    rw [List.dropWhile_eq_nil_iff.2 hblank, hcore]
    rfl
  · have hfirst : ∀ c ∈ (core.toList ++ after).head?, isBlank c = false := by
      rw [List.head?_append_of_ne_nil _ hcore]
      exact h.bare.1
    have hlast : ∀ c ∈ core.toList.reverse.head?, isBlank c = false := by
      rw [List.head?_reverse]
      exact h.bare.2
    rw [List.append_assoc, dropWhile_blanks hbefore hfirst, List.rdropWhile, List.reverse_append,
      dropWhile_blanks (by simpa using hafter) hlast, List.reverse_reverse]

/-- A text has one core, and trimming finds it. -/
theorem trim_eq_iff {s core : String} : trim s = core ↔ IsCore s core :=
  ⟨fun h => h ▸ isCore_trim s, IsCore.trim_eq⟩

theorem IsBare.isCore {s : String} (h : IsBare s) : IsCore s s where
  between := ⟨[], [], by simp, nofun, nofun⟩
  bare := h

/-- Trimming leaves a text as it is if and only if there are no blanks at its ends. -/
theorem trim_eq_self_iff {s : String} : trim s = s ↔ IsBare s :=
  trim_eq_iff.trans ⟨IsCore.bare, IsBare.isCore⟩

theorem IsCore.eq {s core core' : String} (h : IsCore s core) (h' : IsCore s core') : core = core' :=
  h.trim_eq.symm.trans h'.trim_eq

end JobQueue.Text
