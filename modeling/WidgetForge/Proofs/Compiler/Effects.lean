import WidgetForge.Proofs.Compiler.Runs
import WidgetForge.Proofs.Disk.Folders

/-!
# What compiling does to the files

However the steps of `compile` turn out and whatever the picker answers, a request is refused and
nothing happens, or the widgets folder may come into being and then the script stands at exactly one
place or nowhere. `Ending` lists the ways to end. What a picker does to its surroundings is its own
affair: `Ending` takes the world as the picker leaves it and goes on from there.
-/

namespace WidgetForge.Compiler

open Disk Operator Procedure Text Widget

/-- The paths where folders may be made: the widgets folder and those above it. -/
def MayMake (folder : Option Pathname) (q : Pathname) : Prop :=
  ∃ top, folder = some top ∧ AtOrAbove top q

/-- How compiling a request may end. -/
inductive Ending (o : Options) (r : Request) (w : World) :
    Except CompileError Output → World → Prop
  /-- The request is refused. Nothing is done and nobody is asked. -/
  | refused {v : Violation} : generate o r = .error v → Ending o r w (.error (.violation v)) w
  /-- The script is saved in the widgets folder. Nobody is asked. -/
  | direct {script : Artifact} {top : Pathname} {made w' : World} :
      generate o r = .ok script → o.folder = some top → GrownIn (MayMake o.folder) w made →
      SavedIn made w' (top.join o.fileName) (Utf8.encode script.text) → w'.asked = w.asked →
      Ending o r w (.ok ⟨script, some (top.join o.fileName)⟩) w'
  /-- The operator is asked and cannot answer. -/
  | unanswered {script : Artifact} {made : World} {e : IoError} :
      generate o r = .ok script → GrownIn (MayMake o.folder) w made →
      made.answer (promptFor o.folder o.fileName) = .error e →
      Ending o r w (.error (.save (.picker e))) (made.answered (promptFor o.folder o.fileName))
  /-- The operator is asked and declines. -/
  | declined {script : Artifact} {made : World} :
      generate o r = .ok script → GrownIn (MayMake o.folder) w made →
      made.answer (promptFor o.folder o.fileName) = .ok none →
      Ending o r w (.ok ⟨script, none⟩) (made.answered (promptFor o.folder o.fileName))
  /-- The operator is asked, and the script is saved at the answer. -/
  | chosen {script : Artifact} {made w' : World} {p : Pathname} :
      generate o r = .ok script → GrownIn (MayMake o.folder) w made →
      made.answer (promptFor o.folder o.fileName) = .ok (some p) →
      SavedIn (made.answered (promptFor o.folder o.fileName)) w' p (Utf8.encode script.text) →
      Ending o r w (.ok ⟨script, some p⟩) w'
  /-- The operator is asked, and the script cannot be saved at the answer. -/
  | failed {script : Artifact} {made : World} {p : Pathname} {e : IoError} :
      generate o r = .ok script → GrownIn (MayMake o.folder) w made →
      made.answer (promptFor o.folder o.fileName) = .ok (some p) →
      Ending o r w (.error (.save (.chosen p e))) (made.answered (promptFor o.folder o.fileName))

section

variable {folder : Option Pathname} {fileName : String} {content : Octets} {w w' : World}

/-- In the widgets folder the script is saved, or there is an error and nothing is new but
folders. -/
theorem saveDirect_ends {result : Except SaveError Pathname}
    (h : (saveDirect folder fileName content).Ends w result w') :
    ∃ made, GrownIn (MayMake folder) w made ∧
      ((∃ top, folder = some top ∧ result = .ok (top.join fileName) ∧
          SavedIn made w' (top.join fileName) content) ∨
        ((∃ e, result = .error e) ∧ w' = made)) := by
  cases folder with
  | none =>
    obtain ⟨rfl, rfl⟩ := ends_done_iff.mp h
    exact ⟨w', GrownIn.refl _ _, Or.inr ⟨⟨_, rfl⟩, rfl⟩⟩
  | some top =>
    obtain ⟨reply, made, hmade, hrest⟩ := ends_bind_iff.mp h
    refine ⟨made, (makeFolders_grownIn hmade).mono fun q hq => ⟨top, rfl, hq⟩, ?_⟩
    cases reply with
    | error e =>
      obtain ⟨rfl, rfl⟩ := ends_done_iff.mp hrest
      exact Or.inr ⟨⟨_, rfl⟩, rfl⟩
    | ok reply =>
      obtain ⟨saved, hsave, rfl⟩ := ends_map_iff.mp hrest
      rcases save_ends hsave with ⟨rfl, hsaved⟩ | ⟨⟨e, rfl⟩, rfl⟩
      · exact Or.inl ⟨top, rfl, rfl, hsaved⟩
      · exact Or.inr ⟨⟨_, rfl⟩, rfl⟩

end

section

variable {o : Options} {r : Request} {w w' : World} {result : Except CompileError Output}

theorem compile_ends (h : (compile o r).Ends w result w') : Ending o r w result w' := by
  unfold compile at h
  cases hscript : generate o r with
  | error v =>
    simp only [hscript] at h
    obtain ⟨rfl, rfl⟩ := ends_done_iff.mp h
    exact .refused hscript
  | ok script =>
    simp only [hscript] at h
    obtain ⟨fate, hfate, rfl⟩ := ends_map_iff.mp h
    obtain ⟨reply, v, hdirect, hrest⟩ := ends_bind_iff.mp hfate
    obtain ⟨made, hmade, hsaved | ⟨⟨e, rfl⟩, rfl⟩⟩ := saveDirect_ends hdirect
    · obtain ⟨top, htop, rfl, hsaved⟩ := hsaved
      obtain ⟨rfl, rfl⟩ := ends_done_iff.mp hrest
      refine .direct hscript htop hmade hsaved ?_
      obtain ⟨t, rfl, -⟩ := hmade
      obtain ⟨t', place, rfl, -⟩ := hsaved
      rfl
    · rcases saveChosen_cases hrest with
        ⟨e, hanswer, rfl, rfl⟩ | ⟨hanswer, rfl, rfl⟩ | ⟨p, saved, hanswer, hsave, rfl⟩
      · exact .unanswered hscript hmade hanswer
      · exact .declined hscript hmade hanswer
      · rcases save_ends hsave with ⟨rfl, hsaved⟩ | ⟨⟨e, rfl⟩, rfl⟩
        · exact .chosen hscript hmade hanswer hsaved
        · exact .failed hscript hmade hanswer

/-! ### Location by location -/

/-- The script has been saved at the location `l` of the tree `t`, where the path of the result
ends: the script stands there, and no folder did. The path leads to the script unless a symbolic
link stood there, which is gone now. -/
def SavedAt (result : Except CompileError Output) (t t' : Tree) (l : Location) : Prop :=
  ∃ script p, result = .ok ⟨script, some p⟩ ∧ t.destination? p = some l ∧
    t'.node? l = some (.file (Utf8.encode script.text)) ∧ t.hasFolder l = false ∧
    (t.link? l = none → t'.locate p = .ok l)

/-- A saved file is the only change to a tree. -/
theorem location_of_saved {t t' : Tree} {script : Artifact} {p : Pathname} {place : Location}
    (h : t.Saved t' p place (Utf8.encode script.text)) (l : Location) :
    t'.node? l = t.node? l ∨ SavedAt (.ok ⟨script, some p⟩) t t' l := by
  have hplace := Tree.ne_nil_of_hasFolder_eq_false h.noFolder
  have hnode := Tree.node?_put t hplace (.file (Utf8.encode script.text)) l
  rw [← h.tree] at hnode
  by_cases hl : l = place
  · subst hl
    exact Or.inr ⟨script, p, rfl, h.destination, hnode.trans (if_pos rfl), h.noFolder, h.locate⟩
  · exact Or.inl (hnode.trans (if_neg hl))

/-- **Compiling changes the saved file, and makes folders**: compiling ends in one of the ways of
`Ending`. If the picker leaves the tree as it is, then there are at most new folders at first, to
which the path of the widgets folder or one above it leads (`made`), and after that every location
stays what it is, but for the place of the script if it has been saved. -/
theorem compile_effects (h : (compile o r).Ends w result w') :
    Ending o r w result w' ∧
    ((∀ s prompt, (w.picker s prompt).2.tree = s.tree) → ∃ made,
      Grown (MayMake o.folder) w.tree made ∧
      ∀ l, w'.tree.node? l = made.node? l ∨ SavedAt result made w'.tree l) := by
  have hend := compile_ends h
  refine ⟨hend, fun hquiet => ?_⟩
  cases hend with
  | refused => exact ⟨w.tree, Grown.refl _ _, fun _ => Or.inl rfl⟩
  | direct _ _ hmade hsaved =>
    obtain ⟨made, rfl, hgrown⟩ := hmade
    obtain ⟨t, place, rfl, hsaved⟩ := hsaved
    exact ⟨made, hgrown, location_of_saved hsaved⟩
  | unanswered _ hmade _ =>
    obtain ⟨made, rfl, hgrown⟩ := hmade
    exact ⟨made, hgrown, fun l => Or.inl (congrArg (Tree.node? · l) (hquiet _ _))⟩
  | declined _ hmade _ =>
    obtain ⟨made, rfl, hgrown⟩ := hmade
    exact ⟨made, hgrown, fun l => Or.inl (congrArg (Tree.node? · l) (hquiet _ _))⟩
  | failed _ hmade _ =>
    obtain ⟨made, rfl, hgrown⟩ := hmade
    exact ⟨made, hgrown, fun l => Or.inl (congrArg (Tree.node? · l) (hquiet _ _))⟩
  | chosen _ hmade _ hsaved =>
    obtain ⟨made, rfl, hgrown⟩ := hmade
    obtain ⟨t, place, rfl, hsaved⟩ := hsaved
    have htree : ((w.withTree made).answered (promptFor o.folder o.fileName)).tree = made :=
      hquiet _ _
    exact ⟨made, hgrown, location_of_saved (htree ▸ hsaved)⟩

end

/-! ### Runs -/

/-- A request that passes the check. -/
def clock : Request := ⟨"date", 1000, "top: 10px;", "<p>\x7bdata\x7d</p>", "\x7b\x7d"⟩

/-- The script of this request. -/
def clockScript : Artifact := Artifact.of clock (StyleMapping.parse clock.styles)

/-- Options with a folder at the root. -/
def plain : Options := ⟨some ⟨"/widgets"⟩, defaultFileName, false, false⟩

/-- A world without files, where the operator declines. -/
def bare : World := ⟨.ofTree ⟨[], []⟩, Picker.declining, []⟩

/-- A world with a folder and a symbolic link to it, where the operator declines. -/
def linked : World :=
  ⟨.ofTree ⟨[(["real"], .folder true), (["alias"], .link ⟨"real"⟩)], []⟩, Picker.declining, []⟩

/-- Options with a folder that is missing, in a folder to which a symbolic link leads. -/
def roundabout : Options := ⟨some ⟨"/alias/widgets"⟩, defaultFileName, false, false⟩

/-- A script is saved in the widgets folder if this folder can be made and takes it in. -/
theorem run_compile_saved {o : Options} {top p : Pathname} {w made : World} {t : Tree}
    (hscript : generate o clock = .ok clockScript) (htop : o.folder = some top)
    (hp : top.join o.fileName = p) (hmade : (makeFolders top).run w = (.ok (), made))
    (hsaved : made.tree.saved p (Utf8.encode clockScript.text) = .ok t) :
    (compile o clock).run w = (.ok ⟨clockScript, some p⟩, made.withTree t) := by
  rw [run_compile hscript, run_persist, htop, run_saveDirect_of_ok hmade, hp, hsaved]
  rfl

/-- What is left of this world by a script that is saved there by way of the link. -/
def settledIn : Tree :=
  (linked.tree.put ["real", "widgets"] (.folder true)).put ["real", "widgets", "index.jsx"]
    (.file (Utf8.encode clockScript.text))

theorem compile_effects_linked :
    (compile roundabout clock).Ends linked
      (.ok ⟨clockScript, some ⟨"/alias/widgets/index.jsx"⟩⟩) (linked.withTree settledIn) ∧
    ∃ made, Grown (MayMake roundabout.folder) linked.tree made ∧
      ∀ l, settledIn.node? l = made.node? l ∨
        SavedAt (.ok ⟨clockScript, some ⟨"/alias/widgets/index.jsx"⟩⟩) made settledIn l := by
  have hrun : (compile roundabout clock).run linked =
      (.ok ⟨clockScript, some ⟨"/alias/widgets/index.jsx"⟩⟩, linked.withTree settledIn) :=
    @run_compile_saved roundabout _ _ _
      (linked.withTree (linked.tree.put ["real", "widgets"] (.folder true))) settledIn
      rfl rfl (by decide +kernel) rfl rfl
  have hends := ends_run (compile roundabout clock) linked
  rw [hrun] at hends
  exact ⟨hends, (compile_effects hends).2 fun _ _ => rfl⟩

/-- Options with a path that leads past a symbolic link and ends at this very link. -/
def entangled : Options := ⟨some ⟨"/alias/.."⟩, "alias", false, false⟩

/-- The path at which a script is reported to have been saved need not lead to it: here the script
has taken the place of a link past which the path led. -/
theorem saved_path_leads_nowhere :
    ((compile entangled clock).run linked).1 = .ok ⟨clockScript, some ⟨"/alias/../alias"⟩⟩ ∧
    ((compile entangled clock).run linked).2.tree.lookUp ⟨"/alias/../alias"⟩ =
      .error (.os .notFolder) ∧
    linked.tree.node? ["alias"] = some (.link ⟨"real"⟩) ∧
    ((compile entangled clock).run linked).2.tree.node? ["alias"] =
      some (.file (Utf8.encode clockScript.text)) := by
  have hrun : (compile entangled clock).run linked =
      (.ok ⟨clockScript, some ⟨"/alias/../alias"⟩⟩,
        linked.withTree (linked.tree.put ["alias"] (.file (Utf8.encode clockScript.text)))) :=
    run_compile_saved rfl rfl (by decide +kernel) rfl rfl
  rw [hrun]
  exact ⟨rfl, rfl, rfl, rfl⟩

end WidgetForge.Compiler
