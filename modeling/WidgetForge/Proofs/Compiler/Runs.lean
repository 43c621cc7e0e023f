import WidgetForge.Compiler.Compile
import WidgetForge.Proofs.Disk.SaveRun
import WidgetForge.Proofs.Procedure.Ends

/-!
# The parts of a compilation

To ask the operator never fails by bad luck, so there are three ways to go on from the answer
(`saveChosen_cases`). Without bad luck, all of compiling a request is a matter of what the widgets
folder and the answer of the operator take in. There is one equation for each part of it, which says
how the part ends and what world it leaves, in terms of `Tree.saved`.
-/

namespace WidgetForge

open Disk Operator

/-- What the operator answers to a prompt in this world. -/
def World.answer (w : World) (prompt : Prompt) : Answer := (w.picker w.toSurroundings prompt).1

/-- The world once the operator has answered a prompt. -/
def World.answered (w : World) (prompt : Prompt) : World :=
  ⟨(w.picker w.toSurroundings prompt).2, w.picker, w.asked ++ [prompt]⟩

theorem World.perform_ask (w : World) (prompt : Prompt) :
    w.perform (.ask prompt) = (w.answer prompt, w.answered prompt) := rfl

theorem World.performWith_ask (w : World) (luck : Luck) (prompt : Prompt) :
    w.performWith luck (.ask prompt) = (w.answer prompt, w.answered prompt) := by
  cases luck <;> rfl

namespace Compiler

open Procedure Text Widget

variable {folder : Option Pathname} {top : Pathname} {fileName : String} {content : Octets}
  {w w' : World}

/-! ### From the answer of the operator -/

/-- What becomes of a script if saving it at the path `p` ends so. -/
def Fate.ofChosen (p : Pathname) : Except IoError Unit → Fate
  | .error e => .failed (.chosen p e)
  | .ok () => .saved p

/-- Once the operator has answered, the script is saved at the answer if it is a path, and else
nothing more is done. -/
theorem saveChosen_cases {fate : Fate} (h : (saveChosen folder fileName content).Ends w fate w') :
    (∃ e, w.answer (promptFor folder fileName) = .error e ∧ fate = .failed (.picker e) ∧
      w' = w.answered (promptFor folder fileName)) ∨
    (w.answer (promptFor folder fileName) = .ok none ∧ fate = .cancelled ∧
      w' = w.answered (promptFor folder fileName)) ∨
    ∃ p saved, w.answer (promptFor folder fileName) = .ok (some p) ∧
      (Disk.save p content).Ends (w.answered (promptFor folder fileName)) saved w' ∧
      fate = .ofChosen p saved := by
  obtain ⟨luck, h⟩ := ends_step_iff.mp h
  rw [World.performWith_ask] at h
  rcases hanswer : w.answer (promptFor folder fileName) with e | _ | p
  · simp only [hanswer] at h
    obtain ⟨rfl, rfl⟩ := ends_done_iff.mp h
    exact Or.inl ⟨e, rfl, rfl, rfl⟩
  · simp only [hanswer] at h
    obtain ⟨rfl, rfl⟩ := ends_done_iff.mp h
    exact Or.inr (Or.inl ⟨rfl, rfl, rfl⟩)
  · simp only [hanswer] at h
    obtain ⟨saved, hsave, rfl⟩ := ends_map_iff.mp h
    exact Or.inr (Or.inr ⟨p, saved, rfl, hsave, by cases saved <;> rfl⟩)

/-! ### Without bad luck -/

theorem run_saveDirect_of_error {e : IoError} (h : (makeFolders top).run w = (.error e, w')) :
    (saveDirect (some top) fileName content).run w =
      (.error (.direct (top.join fileName) e), w') := by
  rw [saveDirect, run_bind, h]
  rfl

/-- The script is saved once the folders are there. -/
theorem run_saveDirect_of_ok (h : (makeFolders top).run w = (.ok (), w')) :
    (saveDirect (some top) fileName content).run w =
      match w'.tree.saved (top.join fileName) content with
      | .error e => (.error (.direct (top.join fileName) e), w')
      | .ok t => (.ok (top.join fileName), w'.withTree t) := by
  rw [saveDirect, run_bind, h]
  simp only [run_map, run_save]
  cases w'.tree.saved (top.join fileName) content <;> rfl

theorem run_saveChosen (w : World) : (saveChosen folder fileName content).run w =
    match w.answer (promptFor folder fileName) with
    | .error e => (.failed (.picker e), w.answered (promptFor folder fileName))
    | .ok none => (.cancelled, w.answered (promptFor folder fileName))
    | .ok (some p) =>
      match (w.answered (promptFor folder fileName)).tree.saved p content with
      | .error e => (.failed (.chosen p e), w.answered (promptFor folder fileName))
      | .ok t => (.saved p, (w.answered (promptFor folder fileName)).withTree t) := by
  rw [saveChosen, Procedure.run, World.perform_ask]
  rcases w.answer (promptFor folder fileName) with e | _ | p
  · rfl
  · rfl
  · simp only [run_map, run_save]
    cases (w.answered (promptFor folder fileName)).tree.saved p content <;> rfl

theorem run_persist (artifact : Artifact) (w : World) : (persist folder fileName artifact).run w =
    match (saveDirect folder fileName (Utf8.encode artifact.text)).run w with
    | (.ok p, made) => (.saved p, made)
    | (.error _, made) => (saveChosen folder fileName (Utf8.encode artifact.text)).run made := by
  rw [persist, run_bind]
  rcases (saveDirect folder fileName (Utf8.encode artifact.text)).run w with ⟨e | p, made⟩ <;> rfl

/-- A request that has a script is compiled by saving the script. -/
theorem run_compile {o : Options} {r : Request} {script : Artifact}
    (hscript : generate o r = .ok script) (w : World) : (compile o r).run w =
      (Output.of script ((persist o.folder o.fileName script).run w).1,
        ((persist o.folder o.fileName script).run w).2) := by
  rw [compile, hscript]
  exact run_map _ _ _

end Compiler

end WidgetForge
