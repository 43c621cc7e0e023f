import WidgetForge.Proofs.Compiler.Effects

/-!
# What a series of compilations leaves

Compilations follow one another, each with options, a request and a picker of its own, and however
their steps turn out. A compilation that reports where it has saved its script has put the script
there and has changed no other file; any other compilation has changed no file at all. Where there
are no symbolic links, a path that leads somewhere leads there ever after, for nothing is taken
away. So after the whole series a file holds the script of the last compilation whose report leads
to it, and if there is none, then it has been there from the beginning and is what it was.
-/

namespace WidgetForge.Compiler

open Disk Operator Procedure Text Widget

/-- A picker that may make folders, but makes no links, changes no file and takes nothing away. -/
structure Careful (picker : Picker) : Prop where
  kept : ∀ s prompt, Tree.Kept s.tree (picker s prompt).2.tree
  files : ∀ s prompt l, (picker s prompt).2.tree.file? l = s.tree.file? l

/-- A picker that leaves its surroundings as they are is careful. -/
theorem careful_answering (answer : Surroundings → Prompt → Answer) :
    Careful (Picker.answering answer) :=
  ⟨fun s _ => Tree.Kept.refl s.tree, fun _ _ _ => rfl⟩

/-! ### One compilation -/

/-- What a compilation reports to have saved, and where. A compilation that was refused, was
cancelled or has failed reports nothing. -/
def reported : Except CompileError Output → Option (Pathname × Artifact)
  | .ok ⟨script, some p⟩ => some (p, script)
  | _ => none

/-- What is left of the tree `t` by a compilation that reports this. -/
def Leaves (t t' : Tree) : Option (Pathname × Artifact) → Prop
  | none => Tree.Kept t t' ∧ ∀ l, t'.file? l = t.file? l
  | some (p, script) => Tree.Kept t t' ∧ ∃ place, t'.locate p = .ok place ∧
      ∀ l, t'.file? l = if l = place then some (Utf8.encode script.text) else t.file? l

theorem Leaves.kept {t t' : Tree} {saved : Option (Pathname × Artifact)} (h : Leaves t t' saved) :
    Tree.Kept t t' := by
  match saved, h with
  | none, h => exact h.1
  | some _, h => exact h.1

/-- What comes before a compilation changes nothing if no file changes. -/
theorem Leaves.after {t made t' : Tree} {saved : Option (Pathname × Artifact)}
    (hkept : Tree.Kept t made) (hfiles : ∀ l, made.file? l = t.file? l)
    (h : Leaves made t' saved) : Leaves t t' saved := by
  match saved, h with
  | none, ⟨hkept', hfiles'⟩ =>
    exact ⟨hkept.trans hkept', fun l => (hfiles' l).trans (hfiles l)⟩
  | some (p, script), ⟨hkept', place, hlocate, hfiles'⟩ =>
    refine ⟨hkept.trans hkept', place, hlocate, fun l => ?_⟩
    rw [hfiles', hfiles]

theorem leaves_of_saved {t t' : Tree} {p : Pathname} {place : Location} {script : Artifact}
    (hlinks : t.Unlinked) (h : t.Saved t' p place (Utf8.encode script.text)) :
    Leaves t t' (some (p, script)) :=
  ⟨h.kept (hlinks place), place, h.locate (hlinks place), h.file?⟩

theorem leaves_refl (t : Tree) : Leaves t t none := ⟨Tree.Kept.refl t, fun _ => rfl⟩

section

variable {o : Options} {r : Request} {w w' : World} {result : Except CompileError Output}

/-- When a careful operator has been asked, no file has changed yet. -/
theorem leaves_answered {paths : Pathname → Prop} {made : World} {prompt : Prompt} {t' : Tree}
    {saved : Option (Pathname × Artifact)} (hcareful : Careful w.picker)
    (hmade : GrownIn paths w made) (h : Leaves (made.answered prompt).tree t' saved) :
    Leaves w.tree t' saved := by
  obtain ⟨t, rfl, hgrown⟩ := hmade
  exact (h.after (hcareful.kept _ _) (hcareful.files _ _)).after hgrown.kept hgrown.file?

/-- A careful operator makes no links. -/
theorem unlinked_answered {paths : Pathname → Prop} {made : World} {prompt : Prompt}
    (hlinks : w.tree.Unlinked) (hcareful : Careful w.picker) (hmade : GrownIn paths w made) :
    (made.answered prompt).tree.Unlinked := by
  obtain ⟨t, rfl, hgrown⟩ := hmade
  exact (hcareful.kept _ _).unlinked (hgrown.unlinked hlinks)

/-- **A compilation leaves what it reports**: the script where its report leads to, and no other
file that was not there before. -/
theorem compile_leaves (h : (compile o r).Ends w result w') (hlinks : w.tree.Unlinked)
    (hcareful : Careful w.picker) : Leaves w.tree w'.tree (reported result) := by
  cases compile_ends h with
  | refused => exact leaves_refl _
  | direct _ _ hmade hsaved =>
    obtain ⟨made, rfl, hgrown⟩ := hmade
    obtain ⟨t, place, rfl, hsaved⟩ := hsaved
    exact (leaves_of_saved (hgrown.unlinked hlinks) hsaved).after hgrown.kept hgrown.file?
  | unanswered _ hmade _ => exact leaves_answered hcareful hmade (leaves_refl _)
  | declined _ hmade _ => exact leaves_answered hcareful hmade (leaves_refl _)
  | failed _ hmade _ => exact leaves_answered hcareful hmade (leaves_refl _)
  | chosen _ hmade _ hsaved =>
    obtain ⟨t, place, rfl, hsaved⟩ := hsaved
    exact leaves_answered hcareful hmade
      (leaves_of_saved (unlinked_answered hlinks hcareful hmade) hsaved)

/-- What a compilation gives is the script of its request. -/
theorem generate_of_ends {out : Output} (h : (compile o r).Ends w (.ok out) w') :
    generate o r = .ok out.artifact := by
  cases compile_ends h with
  | direct hscript => exact hscript
  | declined hscript => exact hscript
  | chosen hscript => exact hscript

end

/-! ### Series -/

/-- What one compilation is about. -/
structure Task where
  /-- The options. -/
  options : Options
  /-- The request. -/
  request : Request
  /-- What answers when the operator is asked. -/
  picker : Picker

/-- A task and how it ended. -/
abbrev Done := Task × Except CompileError Output

/-- `Series w all w'`: the tasks of `all`, performed one after the other from the world `w` on, may
end with these results, and leave the world `w'`. -/
inductive Series : World → List Done → World → Prop where
  /-- There is nothing to do. -/
  | nil (w : World) : Series w [] w
  /-- The first task is performed with its own picker, and then the others are. -/
  | cons {w w₁ w' : World} {task : Task} {result : Except CompileError Output} {rest : List Done} :
      (compile task.options task.request).Ends { w with picker := task.picker } result w₁ →
        Series w₁ rest w' → Series w ((task, result) :: rest) w'

/-- Performs tasks without bad luck. -/
def performAll : World → List Task → List Done × World
  | w, [] => ([], w)
  | w, task :: rest =>
    let (result, w₁) := (compile task.options task.request).run { w with picker := task.picker }
    let (all, w') := performAll w₁ rest
    ((task, result) :: all, w')

theorem series_performAll (w : World) (tasks : List Task) :
    Series w (performAll w tasks).1 (performAll w tasks).2 := by
  induction tasks generalizing w with
  | nil => exact .nil w
  | cons task rest ih => exact .cons (ends_run _ _) (ih _)

/-- What the tasks report to have saved, in order. -/
def reports (all : List Done) : List (Pathname × Artifact) := all.filterMap fun d => reported d.2

/-- The script that was saved last where the path leads to the location `l` of the tree `t`. -/
def lastSaved (t : Tree) (l : Location) (all : List (Pathname × Artifact)) : Option Artifact :=
  (all.reverse.find? fun saved => (t.locate saved.1).toOption = some l).map Prod.snd

theorem lastSaved_cons (t : Tree) (l : Location) (saved : Pathname × Artifact)
    (rest : List (Pathname × Artifact)) :
    lastSaved t l (saved :: rest) = (lastSaved t l rest).or
      (if (t.locate saved.1).toOption = some l then some saved.2 else none) := by
  rw [lastSaved, List.reverse_cons, List.find?_append, Option.map_or, ← lastSaved]
  congr 1
  by_cases hl : (t.locate saved.1).toOption = some l
  · simp [hl]
  · simp [hl]

section

variable {w w' : World} {all : List Done}

theorem series_kept (h : Series w all w') (hlinks : w.tree.Unlinked)
    (hcareful : ∀ d ∈ all, Careful d.1.picker) : Tree.Kept w.tree w'.tree := by
  induction h with
  | nil w => exact Tree.Kept.refl w.tree
  | cons hfirst _ ih =>
    have hkept := (compile_leaves hfirst hlinks (hcareful _ List.mem_cons_self)).kept
    exact hkept.trans
      (ih (hkept.unlinked hlinks) fun d hd => hcareful d (List.mem_cons_of_mem _ hd))

/-- What a compilation reports still leads to the same place after all others. -/
theorem file?_of_series (h : Series w all w') (hlinks : w.tree.Unlinked)
    (hcareful : ∀ d ∈ all, Careful d.1.picker) (l : Location) :
    w'.tree.file? l = ((lastSaved w'.tree l (reports all)).map
      fun script => Utf8.encode script.text).or (w.tree.file? l) := by
  induction h with
  | nil w => rfl
  | @cons w w₁ w' task result rest hfirst hrest ih =>
    have hothers : ∀ d ∈ rest, Careful d.1.picker := fun d hd =>
      hcareful d (List.mem_cons_of_mem _ hd)
    have hleaves := compile_leaves hfirst hlinks (hcareful _ List.mem_cons_self)
    have hlinks := hleaves.kept.unlinked hlinks
    rw [ih hlinks hothers]
    cases hreported : reported result with
    | none =>
      rw [hreported] at hleaves
      have hsame : reports ((task, result) :: rest) = reports rest := by
        simp [reports, hreported]
      rw [hsame, hleaves.2 l]
    | some saved =>
      obtain ⟨p, script⟩ := saved
      rw [hreported] at hleaves
      obtain ⟨-, place, hlocate, hfiles⟩ := hleaves
      have hmore : reports ((task, result) :: rest) = (p, script) :: reports rest := by
        simp [reports, hreported]
      -- the path leads to the same place now as it did then
      have hnow : w'.tree.locate p = .ok place :=
        Tree.locate_of_kept (series_kept hrest hlinks hothers) hlocate
      rw [hmore, lastSaved_cons, hfiles l, hnow]
      cases lastSaved w'.tree l (reports rest) with
      | some last => rfl
      | none =>
        by_cases hl : l = place
        · simp [hl, Except.toOption]
        · simp [hl, Ne.symm hl, Except.toOption]

/-- Every report leads somewhere in the end. -/
theorem locate_of_mem_reports (h : Series w all w') (hlinks : w.tree.Unlinked)
    (hcareful : ∀ d ∈ all, Careful d.1.picker) {saved : Pathname × Artifact}
    (hsaved : saved ∈ reports all) : ∃ l, w'.tree.locate saved.1 = .ok l := by
  induction h with
  | nil w => exact absurd hsaved List.not_mem_nil
  | @cons w w₁ w' task result rest hfirst hrest ih =>
    have hothers : ∀ d ∈ rest, Careful d.1.picker := fun d hd =>
      hcareful d (List.mem_cons_of_mem _ hd)
    have hleaves := compile_leaves hfirst hlinks (hcareful _ List.mem_cons_self)
    have hlinks := hleaves.kept.unlinked hlinks
    rw [reports, List.filterMap_cons] at hsaved
    cases hreported : reported result with
    | none =>
      simp only [hreported] at hsaved
      exact ih hlinks hothers hsaved
    | some first =>
      simp only [hreported] at hsaved
      rcases List.mem_cons.mp hsaved with rfl | hlater
      · rw [hreported] at hleaves
        obtain ⟨-, place, hlocate, -⟩ := hleaves
        exact ⟨place, Tree.locate_of_kept (series_kept hrest hlinks hothers) hlocate⟩
      · exact ih hlinks hothers hlater

theorem generate_of_mem_series (h : Series w all w') {task : Task} {out : Output}
    (hmem : (task, .ok out) ∈ all) : generate task.options task.request = .ok out.artifact := by
  induction h with
  | nil w => exact absurd hmem List.not_mem_nil
  | cons hfirst _ ih =>
    rcases List.mem_cons.mp hmem with heq | hlater
    · obtain ⟨rfl, rfl⟩ := Prod.mk.inj heq
      exact generate_of_ends hfirst
    · exact ih hlater

/-- **After a series of compilations every file is accounted for**: begun in a tree without symbolic
links, a file holds the script of the last task whose report leads to it, or it has been there
before and no report leads to it. Tasks without a report do not matter. Every report leads
somewhere, and the script of a task is the one that is generated for its request. -/
theorem series_leaves (h : Series w all w') (hlinks : w.tree.Unlinked)
    (hcareful : ∀ d ∈ all, Careful d.1.picker) :
    (∀ l, w'.tree.file? l = ((lastSaved w'.tree l (reports all)).map
      fun script => Utf8.encode script.text).or (w.tree.file? l)) ∧
    (∀ saved ∈ reports all, ∃ l, w'.tree.locate saved.1 = .ok l) ∧
    ∀ task out, (task, .ok out) ∈ all → generate task.options task.request = .ok out.artifact :=
  ⟨file?_of_series h hlinks hcareful, fun _ => locate_of_mem_reports h hlinks hcareful,
    fun _ _ => generate_of_mem_series h⟩

end

theorem tasks_performAll (w : World) (tasks : List Task) :
    (performAll w tasks).1.map Prod.fst = tasks := by
  induction tasks generalizing w with
  | nil => rfl
  | cons task rest ih => exact congrArg (task :: ·) (ih _)

/-- A widget that is saved, then refused, and then saved again by another spelling of its path. -/
def respelled : List Task :=
  [⟨plain, clock, Picker.declining⟩, ⟨plain, { clock with command := "" }, Picker.declining⟩,
    ⟨⟨none, "clock.jsx", false, false⟩, { clock with command := "uptime" },
      Picker.answering fun _ _ => .ok (some ⟨"/widgets/.././widgets//index.jsx"⟩)⟩]

theorem series_leaves_respelled :
    bare.tree.Unlinked ∧
    (∀ d ∈ (performAll bare respelled).1, Careful d.1.picker) ∧
    Series bare (performAll bare respelled).1 (performAll bare respelled).2 ∧
    ∀ l, (performAll bare respelled).2.tree.file? l =
      ((lastSaved (performAll bare respelled).2.tree l (reports (performAll bare respelled).1)).map
        fun script => Utf8.encode script.text).or (bare.tree.file? l) := by
  have hcareful : ∀ d ∈ (performAll bare respelled).1, Careful d.1.picker := by
    intro d hd
    have htask : d.1 ∈ respelled := by
      rw [← tasks_performAll bare respelled]
      exact List.mem_map_of_mem hd
    revert htask
    generalize d.1 = task
    intro htask
    simp only [respelled, List.mem_cons, List.not_mem_nil, or_false] at htask
    rcases htask with rfl | rfl | rfl
    · exact careful_answering _
    · exact careful_answering _
    · exact careful_answering _
  have hlinks : bare.tree.Unlinked := fun l => by cases l <;> rfl
  have hseries := series_performAll bare respelled
  exact ⟨hlinks, hcareful, hseries, (series_leaves hseries hlinks hcareful).1⟩

end WidgetForge.Compiler
