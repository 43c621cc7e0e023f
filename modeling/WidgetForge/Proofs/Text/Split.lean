import Mathlib.Data.List.Basic
import WidgetForge.Text.Split

/-!
# Pieces and the text between them

Cutting a text at a mark and putting the mark between the pieces again are inverse to each other, as
long as no piece holds the mark.
-/

namespace WidgetForge.Text

/-- To show something of every list it is enough to show it of a list without a mark, and of one
with the mark from what stands behind the first. -/
theorem induction_on_mark {α : Type} {motive : List α → Prop} (mark : α)
    (last : ∀ piece, mark ∉ piece → motive piece)
    (more : ∀ piece rest, mark ∉ piece → motive rest → motive (piece ++ mark :: rest))
    (xs : List α) : motive xs := by
  induction hlength : xs.length using Nat.strongRecOn generalizing xs with
  | ind n ih =>
    by_cases hmark : mark ∈ xs
    · obtain ⟨piece, rest, rfl, hpiece⟩ := List.eq_append_cons_of_mem hmark
      refine more piece rest hpiece (ih rest.length ?_ rest rfl)
      rw [← hlength, List.length_append, List.length_cons]
      omega
    · exact last xs hmark

variable {mark : Char} {cs : List Char}

theorem split_of_not_mem (h : mark ∉ cs) : split mark cs = [cs] := by
  induction cs with
  | nil => rfl
  | cons c cs ih =>
    obtain ⟨hc, hcs⟩ := not_or.mp (mt List.mem_cons.mpr h)
    rw [split, if_neg (Ne.symm hc), ih hcs]

/-- There is always a piece. -/
theorem split_ne_nil (mark : Char) (cs : List Char) : split mark cs ≠ [] := by
  cases cs with
  | nil => exact List.cons_ne_nil _ _
  | cons c cs =>
    rw [split]
    split
    · exact List.cons_ne_nil _ _
    · split <;> exact List.cons_ne_nil _ _

/-- What stands before a mark and what stands behind it are cut each by itself. -/
theorem split_append (mark : Char) (cs rest : List Char) :
    split mark (cs ++ mark :: rest) = split mark cs ++ split mark rest := by
  induction cs with
  | nil => simp [split]
  | cons c cs ih =>
    rw [List.cons_append, split, split, ih]
    by_cases hc : c = mark
    · rw [if_pos hc, if_pos hc, List.cons_append]
    · rw [if_neg hc, if_neg hc]
      cases hfirst : split mark cs with
      | nil => exact absurd hfirst (split_ne_nil mark cs)
      | cons piece pieces => rfl

/-- What stands before the first mark is the first piece. -/
theorem split_append_cons (h : mark ∉ cs) (rest : List Char) :
    split mark (cs ++ mark :: rest) = cs :: split mark rest := by
  rw [split_append, split_of_not_mem h, List.singleton_append]

theorem split_eq_splitOn (mark : Char) (cs : List Char) : split mark cs = cs.splitOn mark := by
  induction cs with
  | nil => rfl
  | cons c cs ih =>
    rw [List.splitOn_cons_eq_if_modifyHead, split, ih]
    by_cases hc : c = mark
    · simp [hc]
    · simp only [hc, if_false, beq_eq_false_iff_ne.mpr hc, Bool.false_eq_true]
      cases hrest : cs.splitOn mark with
      | nil => exact absurd (ih.trans hrest) (split_ne_nil mark cs)
      | cons piece pieces => rfl

/-- No piece holds the mark. -/
theorem not_mem_of_mem_split {piece : List Char} (h : piece ∈ split mark cs) : mark ∉ piece := by
  induction cs generalizing piece with
  | nil =>
    rw [List.mem_singleton.mp h]
    exact List.not_mem_nil
  | cons c cs ih =>
    rw [split] at h
    by_cases hc : c = mark
    · rw [if_pos hc] at h
      rcases List.mem_cons.mp h with rfl | h
      · exact List.not_mem_nil
      · exact ih h
    · rw [if_neg hc] at h
      cases hrest : split mark cs with
      | nil =>
        rw [hrest] at h
        simpa [List.mem_singleton.mp h] using Ne.symm hc
      | cons first others =>
        rw [hrest] at h ih
        rcases List.mem_cons.mp h with rfl | h
        · have hfirst := ih List.mem_cons_self
          simpa [hfirst] using Ne.symm hc
        · exact ih (List.mem_cons_of_mem _ h)

/-- The beginning of a list of pieces makes the beginning of the text. -/
theorem intercalate_prefix (mark : List Char) (first rest : List (List Char)) :
    mark.intercalate first <+: mark.intercalate (first ++ rest) := by
  induction first with
  | nil =>
    rw [List.intercalate_nil]
    exact List.nil_prefix
  | cons piece first ih =>
    cases first with
    | nil =>
      cases rest with
      | nil => exact List.prefix_refl _
      | cons next rest =>
        rw [List.singleton_append, List.intercalate_cons_cons, List.intercalate_singleton,
          List.append_assoc]
        exact List.prefix_append _ _
    | cons next first =>
      rw [List.cons_append, List.cons_append, List.intercalate_cons_cons,
        List.intercalate_cons_cons]
      exact (List.prefix_append_right_inj _).mpr ih

end WidgetForge.Text
