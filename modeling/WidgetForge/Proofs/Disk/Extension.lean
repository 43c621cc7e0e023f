import Mathlib.Data.List.TakeWhile
import WidgetForge.Disk.Pathname
import WidgetForge.Proofs.Text.Split

/-!
# The extension of a name

The extension of a path is what stands behind the last dot of its last name. A dot at the front of
the name does not count, and the names that stand for folders have none. For a name without slashes,
`extension?_eq_some_iff` says all this of the text.
-/

namespace WidgetForge.Disk.Pathname

variable {name stem extension : String}

/-- A name with a dot that is not at its front is cut at the last dot. -/
theorem splitName_append (hstem : stem ≠ "") (hextension : '.' ∉ extension.toList) :
    splitName (stem ++ "." ++ extension) = (stem, some extension) := by
  have htext : (stem ++ "." ++ extension).toList.reverse =
      extension.toList.reverse ++ '.' :: stem.toList.reverse := by simp
  have hall : ∀ c ∈ extension.toList.reverse, decide (c ≠ '.') = true := by
    intro c hc
    simpa using fun heq : c = '.' => hextension (heq ▸ List.mem_reverse.mp hc)
  have hbehind : (stem ++ "." ++ extension).toList.reverse.takeWhile (· ≠ '.') =
      extension.toList.reverse := by
    rw [htext, List.takeWhile_append_of_pos hall]
    simp
  have hbefore : (stem ++ "." ++ extension).toList.reverse.drop
      (extension.toList.reverse.length + 1) = stem.toList.reverse := by
    rw [htext, ← List.drop_drop, List.drop_left]
    rfl
  have hne : stem.toList.reverse.isEmpty = false := by simpa using hstem
  simp only [splitName, hbehind, hbefore, hne, Bool.false_eq_true, if_false, List.reverse_reverse,
    String.ofList_toList]

/-- Only such a name is cut. -/
theorem exists_of_splitName (h : (splitName name).2 = some extension) :
    '.' ∉ extension.toList ∧ ∃ stem, stem ≠ "" ∧ name = stem ++ "." ++ extension := by
  have hcut := List.takeWhile_append_dropWhile (p := (· ≠ '.')) (l := name.toList.reverse)
  have hbehind : ∀ c ∈ name.toList.reverse.takeWhile (· ≠ '.'), c ≠ '.' :=
    fun c hc => by simpa using List.mem_takeWhile_imp hc
  have hfirst := @List.head_dropWhile_not _ (· ≠ '.') name.toList.reverse
  unfold splitName at h
  generalize name.toList.reverse.takeWhile (· ≠ '.') = behind at hcut h hbehind
  generalize name.toList.reverse.dropWhile (· ≠ '.') = rest at hcut hfirst
  have hbefore : name.toList.reverse.drop (behind.length + 1) = rest.tail := by
    rw [← hcut, ← List.drop_drop, List.drop_left, List.drop_one]
  cases hempty : rest.tail.isEmpty with
  | true => simp [hbefore, hempty] at h
  | false =>
    simp only [hbefore, hempty, Bool.false_eq_true, if_false, Option.some.injEq] at h
    cases rest with
    | nil => simp at hempty
    | cons c before =>
      obtain rfl : c = '.' := Decidable.not_not.mp (of_decide_eq_false (hfirst (by simp)))
      have hname : name.toList = before.reverse ++ '.' :: behind.reverse := by
        rw [← List.reverse_reverse name.toList, ← hcut]
        simp
      subst h
      refine ⟨by simpa using fun hdot => hbehind '.' hdot rfl, String.ofList before.reverse, ?_, ?_⟩
      · simpa using hempty
      · rw [← String.toList_inj, hname]
        simp

/-- A name without slashes is the last name of its path, unless it is empty or stands for a
folder. -/
theorem name?_of_plain (hslash : '/' ∉ name.toList) :
    name? ⟨name⟩ = if name = "" ∨ name = "." ∨ name = ".." then none else some name := by
  by_cases hdot : name = "."
  · subst hdot
    rfl
  by_cases hempty : name = ""
  · subst hempty
    rfl
  have hparts : parts ⟨name⟩ = [name] := by simp [parts, Text.split_of_not_mem hslash]
  simp [name?, split, hparts, hdot, hempty, backwards, isIdle]

/-- **The extension of a name** without slashes is what stands behind its last dot, unless this dot
is at the front or the name is a pair of dots. -/
theorem extension?_eq_some_iff (hslash : '/' ∉ name.toList) :
    extension? ⟨name⟩ = some extension ↔ name ≠ ".." ∧ '.' ∉ extension.toList ∧
      ∃ stem, stem ≠ "" ∧ name = stem ++ "." ++ extension := by
  rw [extension?, name?_of_plain hslash]
  constructor
  · intro h
    split_ifs at h with hno
    · exact nomatch h
    · exact ⟨fun hdots => hno (Or.inr (Or.inr hdots)), exists_of_splitName h⟩
  · rintro ⟨hdots, hextension, stem, hstem, rfl⟩
    have hempty : stem ++ "." ++ extension ≠ "" := by simp
    have hdot : stem ++ "." ++ extension ≠ "." := by
      intro heq
      have hpos : 0 < stem.toList.length := List.length_pos_of_ne_nil (by simpa using hstem)
      have hlength := congrArg (fun text => text.toList.length) heq
      simp at hlength
      omega
    rw [if_neg (by simp [hempty, hdot, hdots])]
    exact congrArg Prod.snd (splitName_append hstem hextension)

end WidgetForge.Disk.Pathname
