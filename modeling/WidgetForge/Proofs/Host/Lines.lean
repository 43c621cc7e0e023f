import Mathlib.Data.List.Basic
import WidgetForge.Host.Basic

/-!
# How an input is cut into lines

A line ends with its line feed, which stands nowhere else in it. What stands behind the last line
feed is one more line if the input is closed there, and lost if reading fails.
-/

namespace WidgetForge.Host

open Text

/-- The input `input` consists of the lines `all`, each up to its line feed, and of `tail`, which
has none. -/
structure Cut (input : Octets) (all : List Octets) (tail : Octets) : Prop where
  whole : input = all.flatten ++ tail
  line : ∀ l ∈ all, ∃ body, 10 ∉ body ∧ l = body ++ [10]
  rest : 10 ∉ tail

theorem Cut.nil : Cut [] [] [] := ⟨rfl, by simp, by simp⟩

/-- Any other octet goes to the line behind it, or to the tail if there is no line. -/
theorem Cut.tail {b : UInt8} {input tail : Octets} (h : Cut input [] tail) (hb : b ≠ 10) :
    Cut (b :: input) [] (b :: tail) := by
  refine ⟨by simpa using h.whole, by simp, ?_⟩
  simpa [Ne.symm hb] using h.rest

/-- A line is cut from what stands behind it. -/
theorem cut_append {body : Octets} (h : 10 ∉ body) (rest : Octets) :
    cut (body ++ 10 :: rest) = ((body ++ [10]) :: (cut rest).1, (cut rest).2) := by
  induction body with
  | nil => rfl
  | cons b body ih =>
    obtain ⟨hb, hbody⟩ := not_or.mp (mt List.mem_cons.mpr h)
    simp [cut, ih hbody, Ne.symm hb]

/-- Lines that stand one behind the other are cut into themselves. -/
theorem cut_flatten {all : List Octets} (h : ∀ l ∈ all, ∃ body, 10 ∉ body ∧ l = body ++ [10]) :
    cut all.flatten = (all, []) := by
  induction all with
  | nil => rfl
  | cons l all ih =>
    obtain ⟨body, hbody, rfl⟩ := h l List.mem_cons_self
    have hothers := ih fun k hk => h k (List.mem_cons_of_mem _ hk)
    rw [List.flatten_cons, List.append_assoc, List.singleton_append, cut_append hbody, hothers]

/-- Whole lines are the lines, however the input ends. -/
theorem lines_flatten {all : List Octets} (h : ∀ l ∈ all, ∃ body, 10 ∉ body ∧ l = body ++ [10])
    (ending : Ending) : lines all.flatten ending = all := by
  simp only [lines, cut_flatten h]

/-- A single line is the only one. -/
theorem lines_line {body : Octets} (h : 10 ∉ body) (ending : Ending) :
    lines (body ++ [10]) ending = [body ++ [10]] := by
  have hline : ∀ l ∈ [body ++ [10]], ∃ body, 10 ∉ body ∧ l = body ++ [10] :=
    List.forall_mem_singleton.mpr ⟨body, h, rfl⟩
  simpa using lines_flatten hline ending

end WidgetForge.Host
