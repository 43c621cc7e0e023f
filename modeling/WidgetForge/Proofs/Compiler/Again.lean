import WidgetForge.Proofs.Compiler.Effects
import WidgetForge.Proofs.Disk.FoldersAgain
import WidgetForge.Proofs.Disk.SaveRun

/-!
# Compiling a request again

Where there are no symbolic links, a request that is compiled again right after it has been compiled
has the same outcome, and it leaves the files as they are. The first run may have made folders
before it failed to save the script in the widgets folder, and it may have saved the script in one
of them then; but neither folders nor this file let the second run succeed where the first one
failed.
-/

namespace WidgetForge

namespace Operator

/-- A picker that answers the same prompt in the same way each time, and leaves the files alone. A
picker that makes folders may let the second of two runs succeed where the first one failed. -/
structure Picker.Steady (picker : Picker) : Prop where
  answer : ∀ s s' prompt, (picker s' prompt).1 = (picker s prompt).1
  tree : ∀ s prompt, (picker s prompt).2.tree = s.tree

end Operator

namespace Compiler

open Disk Operator Procedure Text Widget

/-! ### In the widgets folder -/

section

variable {folder : Option Pathname} {top : Pathname} {fileName : String} {content : Octets}
  {w w' v : World}

/-- Making folders makes no links. -/
theorem unlinked_of_makeFolders {result : Except IoError Unit} (hlinks : w.tree.Unlinked)
    (h : (makeFolders top).run w = (result, w')) : w'.tree.Unlinked := by
  have hends := ends_run (makeFolders top) w
  rw [h] at hends
  obtain ⟨t, rfl, hgrown⟩ := makeFolders_grownIn hends
  exact hgrown.unlinked hlinks

/-- A script that could not be saved in the widgets folder has left no links. -/
theorem unlinked_of_saveDirect_fails {e : SaveError} (hlinks : w.tree.Unlinked)
    (h : (saveDirect folder fileName content).run w = (.error e, w')) : w'.tree.Unlinked := by
  have hends := ends_run (saveDirect folder fileName content) w
  rw [h] at hends
  obtain ⟨made, hmade, hsaved | ⟨-, rfl⟩⟩ := saveDirect_ends hends
  · obtain ⟨top, -, hok, -⟩ := hsaved
    exact nomatch hok
  · obtain ⟨t, rfl, hgrown⟩ := hmade
    exact hgrown.unlinked hlinks

/-- A script that has been saved in the widgets folder is saved there again, and nothing changes. -/
theorem saveDirect_again {p : Pathname} (hlinks : w.tree.Unlinked)
    (h : (saveDirect folder fileName content).run w = (.ok p, w')) :
    (saveDirect folder fileName content).run w' = (.ok p, w') := by
  cases folder with
  | none => exact nomatch (Prod.mk.inj h).1
  | some top =>
    rcases hmake : (makeFolders top).run w with ⟨e | _, made⟩
    · rw [run_saveDirect_of_error hmake] at h
      exact nomatch (Prod.mk.inj h).1
    · rw [run_saveDirect_of_ok hmake] at h
      cases hsaved : made.tree.saved (top.join fileName) content with
      | error e =>
        rw [hsaved] at h
        exact nomatch (Prod.mk.inj h).1
      | ok t =>
        rw [hsaved] at h
        obtain ⟨hp, rfl⟩ := Prod.mk.inj h
        have hlinks : made.tree.Unlinked := unlinked_of_makeFolders hlinks hmake
        have hsame : made.tree.SameFolders (made.withTree t).tree :=
          Tree.sameFolders_of_saved hlinks hsaved
        rw [run_saveDirect_of_ok (makeFolders_again hmake hsame), World.tree_withTree,
          Tree.saved_again hlinks hsaved, hp]
        rfl

/-- A script that could not be saved in the widgets folder can still not be saved there, and nothing
changes. -/
theorem saveDirect_again_fails {e : SaveError}
    (h : (saveDirect folder fileName content).run w = (.error e, w'))
    (hsame : w'.tree.SameFolders v.tree) :
    ∃ e', (saveDirect folder fileName content).run v = (.error e', v) := by
  cases folder with
  | none => exact ⟨_, rfl⟩
  | some top =>
    rcases hmake : (makeFolders top).run w with ⟨e | _, made⟩
    · rw [run_saveDirect_of_error hmake] at h
      obtain rfl := (Prod.mk.inj h).2
      obtain ⟨e', he⟩ := makeFolders_again_fails hmake hsame
      exact ⟨_, run_saveDirect_of_error he⟩
    · rw [run_saveDirect_of_ok hmake] at h
      cases hsaved : made.tree.saved (top.join fileName) content with
      | ok t =>
        rw [hsaved] at h
        exact nomatch (Prod.mk.inj h).1
      | error e =>
        rw [hsaved] at h
        obtain rfl := (Prod.mk.inj h).2
        obtain ⟨e', he⟩ := Tree.saved_again_fails hsaved hsame
        refine ⟨.direct (top.join fileName) e', ?_⟩
        rw [run_saveDirect_of_ok (makeFolders_again hmake hsame), he]

/-! ### Where the operator says -/

theorem answer_of_steady (hsteady : w.picker.Steady) (hpicker : v.picker = w.picker)
    (prompt : Prompt) : v.answer prompt = w.answer prompt := by
  change (v.picker v.toSurroundings prompt).1 = (w.picker w.toSurroundings prompt).1
  rw [hpicker]
  exact hsteady.answer _ _ prompt

theorem tree_answered (hsteady : w.picker.Steady) (prompt : Prompt) :
    (w.answered prompt).tree = w.tree := hsteady.tree w.toSurroundings prompt

/-- Whether a script is saved where the operator says or not, all folders stay and none is new. -/
theorem sameFolders_saveChosen (hlinks : w.tree.Unlinked) (hsteady : w.picker.Steady) :
    w.tree.SameFolders ((saveChosen folder fileName content).run w).2.tree := by
  have htree := tree_answered hsteady (promptFor folder fileName)
  have hsame : w.tree.SameFolders (w.answered (promptFor folder fileName)).tree := by
    rw [htree]
    exact Tree.SameFolders.refl w.tree
  rw [run_saveChosen, htree]
  cases w.answer (promptFor folder fileName) with
  | error e => exact hsame
  | ok answer =>
    cases answer with
    | none => exact hsame
    | some p =>
      cases hsaved : w.tree.saved p content with
      | error e =>
        simp only [hsaved]
        exact hsame
      | ok t =>
        simp only [hsaved]
        exact Tree.sameFolders_of_saved hlinks hsaved

/-- Asked again, the operator says the same, and the script is saved there or not as before. -/
theorem saveChosen_again (hlinks : w.tree.Unlinked) (hsteady : w.picker.Steady)
    (hpicker : v.picker = w.picker)
    (hv : v.tree = ((saveChosen folder fileName content).run w).2.tree) :
    ((saveChosen folder fileName content).run v).1 =
        ((saveChosen folder fileName content).run w).1 ∧
      ((saveChosen folder fileName content).run v).2.tree = v.tree := by
  have htree := tree_answered hsteady (promptFor folder fileName)
  have htree' := tree_answered (hpicker ▸ hsteady) (promptFor folder fileName)
  rw [run_saveChosen, htree] at hv
  rw [run_saveChosen, run_saveChosen, answer_of_steady hsteady hpicker, htree, htree']
  cases hanswer : w.answer (promptFor folder fileName) with
  | error e => exact ⟨rfl, htree'⟩
  | ok answer =>
    cases answer with
    | none => exact ⟨rfl, htree'⟩
    | some p =>
      simp only [hanswer] at hv ⊢
      cases hsaved : w.tree.saved p content with
      | error e =>
        simp only [hsaved, htree] at hv
        simp only [hv, hsaved, htree']
        exact ⟨trivial, trivial⟩
      | ok t =>
        simp only [hsaved, World.tree_withTree] at hv
        simp only [hv, Tree.saved_again hlinks hsaved]
        exact ⟨trivial, rfl⟩

/-! ### The whole -/

theorem persist_again (artifact : Artifact) (hlinks : w.tree.Unlinked)
    (hsteady : w.picker.Steady) :
    ((persist folder fileName artifact).run ((persist folder fileName artifact).run w).2).1 =
        ((persist folder fileName artifact).run w).1 ∧
      ((persist folder fileName artifact).run ((persist folder fileName artifact).run w).2).2.tree =
        ((persist folder fileName artifact).run w).2.tree := by
  rcases hdirect : (saveDirect folder fileName (Utf8.encode artifact.text)).run w with ⟨e | p, made⟩
  · have hpicker : made.picker = w.picker := by
      rw [← picker_run (saveDirect folder fileName (Utf8.encode artifact.text)) w, hdirect]
    have hmade : made.picker.Steady := hpicker ▸ hsteady
    have hlinks := unlinked_of_saveDirect_fails hlinks hdirect
    have hrun : (persist folder fileName artifact).run w =
        (saveChosen folder fileName (Utf8.encode artifact.text)).run made := by
      rw [run_persist, hdirect]
    -- whatever the first run has saved, it is a file, and so it opens no way into the folder
    obtain ⟨e', hagain⟩ := saveDirect_again_fails hdirect (sameFolders_saveChosen hlinks hmade)
    rw [hrun, run_persist, hagain]
    exact saveChosen_again hlinks hmade (picker_run _ made) rfl
  · have hrun : (persist folder fileName artifact).run w = (.saved p, made) := by
      rw [run_persist, hdirect]
    rw [hrun, run_persist, saveDirect_again hlinks hdirect]
    exact ⟨rfl, rfl⟩

end

/-- **Compiling a request again changes nothing**: without symbolic links, and with a steady picker,
the second of two runs has the same result as the first, and it leaves the files as the first one
has left them. -/
theorem compile_again (o : Options) (r : Request) {w : World} (hlinks : w.tree.Unlinked)
    (hsteady : w.picker.Steady) :
    ((compile o r).run ((compile o r).run w).2).1 = ((compile o r).run w).1 ∧
      ((compile o r).run ((compile o r).run w).2).2.tree = ((compile o r).run w).2.tree := by
  unfold compile
  cases generate o r with
  | error v => exact ⟨rfl, rfl⟩
  | ok artifact =>
    obtain ⟨hfate, htree⟩ := persist_again artifact hlinks hsteady
    simp only [run_map]
    exact ⟨congrArg _ hfate, htree⟩

/-- Options with a file name that leads into a folder which is not made. -/
def astray : Options := ⟨some ⟨"/made/deep"⟩, "no/index.jsx", false, false⟩

/-- A world without files. The operator answers with a path into another folder that is missing. -/
def misled : World :=
  ⟨.ofTree ⟨[], []⟩, Picker.answering fun _ _ => .ok (some ⟨"/made/deep/gone/index.jsx"⟩), []⟩

theorem misled_unlinked : misled.tree.Unlinked := by
  intro l
  cases l <;> rfl

theorem compile_again_astray :
    misled.tree.Unlinked ∧ misled.picker.Steady ∧
    ((compile astray clock).run ((compile astray clock).run misled).2).1 =
      ((compile astray clock).run misled).1 ∧
    ((compile astray clock).run ((compile astray clock).run misled).2).2.tree =
      ((compile astray clock).run misled).2.tree ∧
    ((compile astray clock).run misled).1.toOption.isNone = true ∧
    ((compile astray clock).run misled).2.tree.hasFolder ["made", "deep"] = true := by
  have hsteady : misled.picker.Steady := ⟨fun _ _ _ => rfl, fun _ _ => rfl⟩
  obtain ⟨hresult, htree⟩ := compile_again astray clock misled_unlinked hsteady
  exact ⟨misled_unlinked, hsteady, hresult, htree, by decide +kernel, by decide +kernel⟩

end Compiler

end WidgetForge
