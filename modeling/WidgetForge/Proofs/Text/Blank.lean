import Mathlib.Data.List.DropRight
import WidgetForge.Text.Blank

/-!
# What is left of a trimmed text

Trimming takes blanks only, and it takes all of them at both ends: what is left neither begins nor
ends with one. There is only one such part of a text, and nothing is left exactly if the text is
blank.
-/

namespace WidgetForge.Text

/-- `core` is `cs` without the blanks at its ends. -/
structure Trimmed (cs core : List Char) : Prop where
  around : ∃ left right, cs = left ++ core ++ right ∧
    (∀ c ∈ left, isBlank c = true) ∧ ∀ c ∈ right, isBlank c = true
  first : ∀ c ∈ core.head?, isBlank c = false
  last : ∀ c ∈ core.getLast?, isBlank c = false

theorem trimChars_eq (cs : List Char) :
    trimChars cs = (cs.dropWhile isBlank).rdropWhile isBlank := rfl

/-- Nothing is left of a blank text only. -/
theorem trimChars_eq_nil {cs : List Char} :
    trimChars cs = [] ↔ ∀ c ∈ cs, isBlank c = true := by
  rw [trimChars_eq, List.rdropWhile_eq_nil_iff]
  constructor
  · intro h c hc
    rw [← List.takeWhile_append_dropWhile (p := isBlank) (l := cs)] at hc
    rcases List.mem_append.mp hc with htaken | hleft
    · exact List.mem_takeWhile_imp htaken
    · exact h c hleft
  · intro h
    rw [List.dropWhile_eq_nil_iff.mpr h]
    exact List.forall_mem_nil _

theorem trimmed_trimChars (cs : List Char) : Trimmed cs (trimChars cs) := by
  rw [trimChars_eq]
  refine ⟨⟨cs.takeWhile isBlank, (cs.dropWhile isBlank).rtakeWhile isBlank, ?_,
    fun c hc => List.mem_takeWhile_imp hc, fun c hc => List.mem_rtakeWhile_imp hc⟩, ?_, ?_⟩
  · rw [List.append_assoc, List.rdropWhile_append_rtakeWhile, List.takeWhile_append_dropWhile]
  · -- the first character that is left at the end was the first one left at the front
    intro c hc
    obtain ⟨core, hcore⟩ := List.head?_eq_some_iff.mp hc
    obtain ⟨behind, hbehind⟩ := List.rdropWhile_prefix isBlank (cs.dropWhile isBlank)
    rw [hcore] at hbehind
    have hfirst : (cs.dropWhile isBlank).head? = some c := by rw [← hbehind]; rfl
    have hnot := List.head?_dropWhile_not isBlank cs
    rw [hfirst] at hnot
    simpa using hnot
  · intro c hc
    obtain ⟨hne, rfl⟩ := List.mem_getLast?_eq_getLast hc
    simpa using List.rdropWhile_last_not isBlank (cs.dropWhile isBlank) hne

/-- Only one part of a text is what trimming leaves. -/
theorem Trimmed.eq {cs core : List Char} (h : Trimmed cs core) : core = trimChars cs := by
  obtain ⟨left, right, rfl, hleft, hright⟩ := h.around
  cases core with
  | nil =>
    refine (trimChars_eq_nil.mpr fun c hc => ?_).symm
    rw [List.append_nil] at hc
    exact (List.mem_append.mp hc).elim (hleft c) (hright c)
  | cons c rest =>
    have hfront : (left ++ c :: rest ++ right).dropWhile isBlank = c :: rest ++ right := by
      have hfirst : isBlank c = false := h.first c rfl
      rw [List.append_assoc, List.dropWhile_append_of_pos hleft, List.cons_append,
        List.dropWhile_cons_of_neg (by simp [hfirst])]
    have hback : (c :: rest ++ right).rdropWhile isBlank = (c :: rest).rdropWhile isBlank := by
      have hreverse : ∀ d ∈ right.reverse, isBlank d = true :=
        fun d hd => hright d (List.mem_reverse.mp hd)
      rw [List.rdropWhile, List.reverse_append, List.dropWhile_append_of_pos hreverse,
        ← List.rdropWhile]
    rw [trimChars_eq, hfront, hback, eq_comm, List.rdropWhile_eq_self_iff]
    intro hne
    have hlast : isBlank ((c :: rest).getLast hne) = false :=
      h.last _ (List.getLast?_eq_some_getLast hne)
    simp [hlast]

theorem trimmed_iff {cs core : List Char} : Trimmed cs core ↔ core = trimChars cs :=
  ⟨Trimmed.eq, fun h => h ▸ trimmed_trimChars cs⟩

end WidgetForge.Text
