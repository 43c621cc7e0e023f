import WidgetForge.Proofs.Compiler.Effects
import WidgetForge.Proofs.Disk.Extension
import WidgetForge.Proofs.Procedure.Run

/-!
# The operator is asked last, and once

A run first tries the widgets folder. Only if that fails, for whatever reason, the operator is
asked, once, and sees the name of the script, its extension and the widgets folder; from then on the
reason does not matter any more. What the run reports is a function of the answer and of how saving
at the answer ends (`Report.afterAnswer`), and so neither a failure in the widgets folder nor an
operator who declines is ever reported as an error.

This is shown for every way in which the steps of a run may turn out (`AsksLast`). For the run
without bad luck the failure in the widgets folder is a matter of the world in which it begins
(`DirectFails`), and it decides alone whether the operator is asked.
-/

namespace WidgetForge.Compiler

open Disk Operator Procedure Text Widget

/-! ### What comes after an answer -/

/-- What is reported once the operator has answered. If the answer is a path, then `saved` is how
saving there has ended. -/
def Report.afterAnswer : Answer → Except IoError Unit → Report
  | .error e, _ =>
    ⟨"Widget generation failed: " ++ ("Destination picker failed: " ++ e.message),
      some (.save (.picker e))⟩
  | .ok none, _ =>
    ⟨"Widget JSX script generated but not saved: File save operation cancelled by user", none⟩
  | .ok (some p), .ok () => ⟨"Widget JSX script generated and saved to " ++ p.text, none⟩
  | .ok (some p), .error e =>
    ⟨"Widget generation failed: " ++ ("Error writing file " ++ p.text ++ ": " ++ e.message),
      some (.save (.chosen p e))⟩

/-- The kind of the error that is reported once the operator has answered. -/
def kindAfterAnswer : Answer → Except IoError Unit → Option String
  | .error _, _ => some "picker_failed"
  | .ok (some _), .error _ => some "fallback_write_failed"
  | .ok _, _ => none

/-- What is done once the operator has answered in the world `w`: the content is saved at the path
that is the answer. If the answer is no path, there is nothing to do. -/
def SavesAnswer (content : Octets) (w : World) : Answer → Except IoError Unit → World → Prop
  | .ok (some p), saved, w' => (Disk.save p content).Ends w saved w'
  | _, saved, w' => saved = .ok () ∧ w' = w

/-- How the operator is asked in a run that ends with a report. -/
structure AsksLast (o : Options) (r : Request) (w : World) (report : Report) (w' : World) :
    Prop where
  /-- A request that is refused is reported as such. Nobody is asked and nothing is done. -/
  refused : ∀ v, generate o r = .error v → report = .of (.error (.violation v)) ∧ w' = w
  /-- Any script is first saved in the widgets folder, if there is one. If that succeeds, nobody is
  asked; if it fails, the operator is asked once, is shown the name of the script, its extension if
  it has one, and the widgets folder, and the answer decides. -/
  tried : ∀ script, generate o r = .ok script → ∃ direct made,
    (saveDirect o.folder o.fileName (Utf8.encode script.text)).Ends w direct made ∧
    (∀ p, direct = .ok p → (∃ top, o.folder = some top ∧ p = top.join o.fileName) ∧
      report = ⟨savedStatus p, none⟩ ∧ w' = made ∧ w'.asked = w.asked) ∧
    ∀ e, direct = .error e →
      let prompt : Prompt := ⟨o.fileName, (Pathname.extension? ⟨o.fileName⟩).getD "", o.folder⟩
      w'.asked = w.asked ++ [prompt] ∧
      ∃ saved, report = .afterAnswer (made.answer prompt) saved ∧
        report.error.map CompileError.kind = kindAfterAnswer (made.answer prompt) saved ∧
        SavesAnswer (Utf8.encode script.text) (made.answered prompt) (made.answer prompt) saved w'
  /-- What failed in the widgets folder is not reported, nor that the operator declined. -/
  kinds : ∀ e, report.error = some e →
    e.kind ∉ ["direct_write_failed", "fallback_cancelled", "unexpected"]

section

variable {folder : Option Pathname} {fileName : String} {content : Octets} {w w' : World}

/-- To save in the widgets folder asks nobody. -/
theorem asked_saveDirect {result : Except SaveError Pathname}
    (h : (saveDirect folder fileName content).Ends w result w') : w'.asked = w.asked := by
  obtain ⟨made, ⟨t, rfl, -⟩, ⟨top, -, -, t', place, rfl, -⟩ | ⟨-, rfl⟩⟩ := saveDirect_ends h
  · rfl
  · rfl

/-- A script that is saved in the widgets folder has the path of its name there. -/
theorem path_saveDirect {p : Pathname}
    (h : (saveDirect folder fileName content).Ends w (.ok p) w') :
    ∃ top, folder = some top ∧ p = top.join fileName := by
  obtain ⟨-, -, ⟨top, htop, hp, -⟩ | ⟨⟨e, he⟩, -⟩⟩ := saveDirect_ends h
  · exact ⟨top, htop, Except.ok.inj hp⟩
  · exact nomatch he

theorem asked_save {p : Pathname} {saved : Except IoError Unit}
    (h : (Disk.save p content).Ends w saved w') : w'.asked = w.asked := by
  rcases save_ends h with ⟨-, t, place, rfl, -⟩ | ⟨-, rfl⟩
  · rfl
  · rfl

/-- The operator is asked once, and only the answer and how it is carried out matter. -/
theorem saveChosen_asks {fate : Fate} (script : Artifact)
    (h : (saveChosen folder fileName content).Ends w fate w') :
    w'.asked = w.asked ++ [promptFor folder fileName] ∧
    ∃ saved, Report.of (Output.of script fate) =
        .afterAnswer (w.answer (promptFor folder fileName)) saved ∧
      SavesAnswer content (w.answered (promptFor folder fileName))
        (w.answer (promptFor folder fileName)) saved w' := by
  have hasked : (w.answered (promptFor folder fileName)).asked =
      w.asked ++ [promptFor folder fileName] := rfl
  rcases saveChosen_cases h with
    ⟨e, hanswer, rfl, rfl⟩ | ⟨hanswer, rfl, rfl⟩ | ⟨p, saved, hanswer, hsave, rfl⟩
  · rw [hanswer]
    exact ⟨hasked, .ok (), rfl, rfl, rfl⟩
  · rw [hanswer]
    exact ⟨hasked, .ok (), rfl, rfl, rfl⟩
  · rw [hanswer]
    refine ⟨(asked_save hsave).trans hasked, saved, ?_, hsave⟩
    cases saved with
    | error e => rfl
    | ok u => rfl

end

/-! ### Kinds of errors -/

theorem kind_afterAnswer (answer : Answer) (saved : Except IoError Unit) :
    (Report.afterAnswer answer saved).error.map CompileError.kind =
      kindAfterAnswer answer saved := by
  match answer, saved with
  | .error _, _ => rfl
  | .ok none, _ => rfl
  | .ok (some _), .ok () => rfl
  | .ok (some _), .error _ => rfl

theorem kindAfterAnswer_not_mem {answer : Answer} {saved : Except IoError Unit} {kind : String}
    (h : kindAfterAnswer answer saved = some kind) :
    kind ∉ ["direct_write_failed", "fallback_cancelled", "unexpected"] := by
  unfold kindAfterAnswer at h
  split at h
  · obtain rfl := Option.some.inj h
    decide
  · obtain rfl := Option.some.inj h
    decide
  · exact nomatch h

theorem kind_violation_not_mem (v : Violation) :
    v.kind ∉ ["direct_write_failed", "fallback_cancelled", "unexpected"] := by
  cases v <;> simp [Violation.kind]

/-! ### Runs -/

section

variable {o : Options} {r : Request} {w w' : World} {report : Report}

theorem run_asksLast (h : (run o r).Ends w report w') : AsksLast o r w report w' := by
  obtain ⟨result, hresult, rfl⟩ := ends_map_iff.mp h
  unfold compile at hresult
  cases hscript : generate o r with
  | error v =>
    simp only [hscript] at hresult
    obtain ⟨rfl, rfl⟩ := ends_done_iff.mp hresult
    refine ⟨fun v' hv => ?_, fun script hok => ?_, fun e he => ?_⟩
    · obtain rfl : v = v' := Except.error.inj (hscript.symm.trans hv)
      exact ⟨rfl, rfl⟩
    · exact nomatch hscript.symm.trans hok
    · obtain rfl : CompileError.violation v = e := Option.some.inj he
      exact kind_violation_not_mem v
  | ok script =>
    simp only [hscript] at hresult
    obtain ⟨fate, hfate, rfl⟩ := ends_map_iff.mp hresult
    obtain ⟨direct, made, hdirect, hrest⟩ := ends_bind_iff.mp hfate
    have hmade := asked_saveDirect hdirect
    cases direct with
    | ok p =>
      obtain ⟨rfl, rfl⟩ := ends_done_iff.mp hrest
      refine ⟨fun v hv => (nomatch hscript.symm.trans hv), fun script' hok => ?_,
        fun e he => (nomatch he)⟩
      obtain rfl : script = script' := Except.ok.inj (hscript.symm.trans hok)
      refine ⟨.ok p, w', hdirect, fun p' hp => ?_, nofun⟩
      obtain rfl : p = p' := Except.ok.inj hp
      exact ⟨path_saveDirect hdirect, rfl, rfl, hmade⟩
    | error e =>
      obtain ⟨hasked, saved, hreport, hsaved⟩ := saveChosen_asks script hrest
      rw [hmade] at hasked
      have hkind := kind_afterAnswer (made.answer (promptFor o.folder o.fileName)) saved
      rw [← hreport] at hkind
      refine ⟨fun v hv => (nomatch hscript.symm.trans hv), fun script' hok => ?_, fun e he => ?_⟩
      · obtain rfl : script = script' := Except.ok.inj (hscript.symm.trans hok)
        exact ⟨.error e, made, hdirect, nofun, fun _ _ => ⟨hasked, saved, hreport, hkind, hsaved⟩⟩
      · rw [he] at hkind
        exact kindAfterAnswer_not_mem hkind.symm

/-- The request has a script, and it cannot be saved in the widgets folder of this world. -/
def DirectFails (o : Options) (r : Request) (w : World) : Prop :=
  ∃ script e, generate o r = .ok script ∧
    ((saveDirect o.folder o.fileName (Utf8.encode script.text)).run w).1 = .error e

/-- Without a widgets folder no script can be saved there. -/
theorem directFails_of_no_folder {script : Artifact} (hscript : generate o r = .ok script)
    (hfolder : o.folder = none) (w : World) : DirectFails o r w := by
  refine ⟨script, .direct ⟨o.fileName⟩ (.other "no application support directory available"),
    hscript, ?_⟩
  rw [hfolder]
  rfl

/-- A run asks the operator exactly if the script cannot be saved in the widgets folder. -/
theorem asked_run (o : Options) (r : Request) (w : World) :
    (DirectFails o r w → ((run o r).run w).2.asked = w.asked ++ [promptFor o.folder o.fileName]) ∧
    (¬ DirectFails o r w → ((run o r).run w).2.asked = w.asked) := by
  rw [run, run_map]
  unfold compile
  cases hscript : generate o r with
  | error v =>
    refine ⟨?_, fun _ => rfl⟩
    rintro ⟨script, e, hok, -⟩
    rw [hscript] at hok
    exact absurd hok (by simp)
  | ok script =>
    simp only [run_map, persist, run_bind]
    have hmade := asked_saveDirect
      (ends_run (saveDirect o.folder o.fileName (Utf8.encode script.text)) w)
    cases hdirect : ((saveDirect o.folder o.fileName (Utf8.encode script.text)).run w).1 with
    | ok p =>
      refine ⟨?_, fun _ => hmade⟩
      rintro ⟨script', e, hok, he⟩
      obtain rfl : script = script' := Except.ok.inj (hscript.symm.trans hok)
      rw [hdirect] at he
      exact absurd he (by simp)
    | error e =>
      refine ⟨fun _ => ?_, fun hnot => absurd ⟨script, e, hscript, hdirect⟩ hnot⟩
      rw [← hmade]
      exact (saveChosen_asks script (ends_run _ _)).1

end

/-- **The operator is the last resort**: however the steps of a run turn out, the operator is asked
once if the script of the request could not be saved in the widgets folder, and else not at all; and
what is reported after that depends on the answer and on saving there, but not on what had failed
before. Without bad luck the operator is asked exactly if the script cannot be saved in the widgets
folder, as is always so if there is none. The extension that the operator is shown is that of the
name of the script. -/
theorem asks_as_last_resort (o : Options) (r : Request) (w : World) :
    (∀ report w', (run o r).Ends w report w' → AsksLast o r w report w') ∧
    (DirectFails o r w → ((run o r).run w).2.asked = w.asked ++
      [⟨o.fileName, (Pathname.extension? ⟨o.fileName⟩).getD "", o.folder⟩]) ∧
    (¬ DirectFails o r w → ((run o r).run w).2.asked = w.asked) ∧
    (∀ script, generate o r = .ok script → o.folder = none → DirectFails o r w) ∧
    (∀ extension, '/' ∉ o.fileName.toList →
      (Pathname.extension? ⟨o.fileName⟩ = some extension ↔
        o.fileName ≠ ".." ∧ '.' ∉ extension.toList ∧
          ∃ stem, stem ≠ "" ∧ o.fileName = stem ++ "." ++ extension)) :=
  ⟨fun _ _ => run_asksLast, (asked_run o r w).1, (asked_run o r w).2,
    fun _ hscript hfolder => directFails_of_no_folder hscript hfolder w,
    fun _ => Pathname.extension?_eq_some_iff⟩

/-- A world where a file stands in the place of the widgets folder. The operator answers with a path
below this file. -/
def blocked : World :=
  ⟨.ofTree ⟨[(["widgets"], .file [])], []⟩,
    Picker.answering fun _ _ => .ok (some ⟨"/widgets/clock.jsx"⟩), []⟩

/-- Options with a file name of their own. -/
def renamed : Options := ⟨some ⟨"/widgets"⟩, "clock.old.js", false, false⟩

theorem asks_as_last_resort_blocked :
    DirectFails renamed clock blocked ∧
    AsksLast renamed clock blocked ((run renamed clock).run blocked).1
      ((run renamed clock).run blocked).2 ∧
    ((run renamed clock).run blocked).2.asked = [⟨"clock.old.js", "js", some ⟨"/widgets"⟩⟩] ∧
    ((run renamed clock).run blocked).1.error.map CompileError.kind =
      some "fallback_write_failed" := by
  obtain ⟨hlast, hasks, -, -, hextension⟩ := asks_as_last_resort renamed clock blocked
  have hfails : DirectFails renamed clock blocked := ⟨clockScript, _, by rfl, by rfl⟩
  have hjs : Pathname.extension? ⟨"clock.old.js"⟩ = some "js" :=
    (hextension "js" (by decide)).mpr ⟨by decide, by decide, "clock.old", by decide, rfl⟩
  refine ⟨hfails, hlast _ _ (ends_run _ _), ?_, by decide +kernel⟩
  rw [hasks hfails, show renamed.fileName = "clock.old.js" from rfl, hjs]
  rfl

end WidgetForge.Compiler
