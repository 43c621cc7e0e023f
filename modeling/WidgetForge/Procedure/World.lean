import WidgetForge.Procedure.Basic

/-!
# Running procedures on a file tree

A world is a file tree with an input and a picker, and a record of the prompts that have been put. A
step that fails leaves the tree as it is.
-/

namespace WidgetForge

open Disk Operator

/-- Where procedures are run. -/
structure World extends Surroundings where
  /-- What answers prompts. -/
  picker : Picker
  /-- The prompts that have been put, in order. -/
  asked : List Prompt

namespace World

/-- The world with another tree. -/
def withTree (w : World) (t : Tree) : World := { w with tree := t }

/-- The outcome of a change of the tree that gives a result. The tree stays as it is when the change
fails. -/
def change {α : Type} (w : World) (outcome : Except IoError (α × Tree)) :
    Except IoError α × World :=
  match outcome with
  | .error e => (.error e, w)
  | .ok (a, tree) => (.ok a, w.withTree tree)

/-- Performs a step. -/
def perform (w : World) : (s : Step) → s.Reply × World
  | .makeFolder p => w.change ((w.tree.makeFolder p).map fun tree => ((), tree))
  | .isFolder p => (w.tree.isFolder p, w)
  | .createTemp folder => w.change (w.tree.createTemp folder)
  | .append temp octets =>
    w.change ((w.tree.append temp octets).map fun tree => (octets.length, tree))
  | .sync _ => (.ok (), w)
  | .rename temp target => w.change ((w.tree.rename temp target).map fun tree => ((), tree))
  | .discard temp => ((), w.withTree (w.tree.erase temp))
  | .readFile p =>
    let (content, left) := w.readFile p
    (content, { w with toSurroundings := left })
  | .ask prompt =>
    let (answer, left) := w.picker w.toSurroundings prompt
    (answer, { w with toSurroundings := left, asked := w.asked ++ [prompt] })

end World

/-- Runs a procedure to its end. -/
def Procedure.run {α : Type} : Procedure α → World → α × World
  | .done a, w => (a, w)
  | .step s next, w => (next (w.perform s).1).run (w.perform s).2

end WidgetForge
