import WidgetForge.Operator.Prompt

/-!
# Procedures

A procedure is what a program does to the world, step by step: each step is answered, and the answer
decides how the procedure goes on, until it is done. A procedure does not say how its steps are
performed. They may be performed on a file tree or on a disk, alone or in turn with the steps of
other procedures, and any of them may fail.
-/

namespace WidgetForge

open Disk Operator Text

/-- A step of a procedure. -/
inductive Step where
  /-- Makes a folder. -/
  | makeFolder (path : Pathname)
  /-- Looks whether a path leads to a folder. -/
  | isFolder (path : Pathname)
  /-- Makes an empty temporary file in a folder. -/
  | createTemp (folder : Pathname)
  /-- Adds octets at the end of a temporary file. -/
  | append (temp : Location) (octets : Octets)
  /-- Sees to it that a temporary file is stored. -/
  | sync (temp : Location)
  /-- Moves a temporary file to a path. -/
  | rename (temp : Location) (target : Pathname)
  /-- Takes away a temporary file. -/
  | discard (temp : Location)
  /-- Reads a file. -/
  | readFile (path : Pathname)
  /-- Asks the operator. -/
  | ask (prompt : Prompt)

/-- How a step is answered. -/
@[reducible] def Step.Reply : Step → Type
  | .makeFolder _ => Except IoError Unit
  | .isFolder _ => Bool
  | .createTemp _ => Except IoError Location
  | .append _ _ => Except IoError Nat
  | .sync _ => Except IoError Unit
  | .rename _ _ => Except IoError Unit
  | .discard _ => Unit
  | .readFile _ => Except IoError Octets
  | .ask _ => Answer

/-- A procedure that ends with a result. -/
inductive Procedure (α : Type) : Type where
  /-- It is done. -/
  | done (result : α)
  /-- It takes a step and goes on as the reply demands. -/
  | step (s : Step) (next : s.Reply → Procedure α)

namespace Procedure

/-- The procedure of one step. -/
def only (s : Step) : Procedure s.Reply := .step s .done

/-- Goes on with another procedure. -/
def bind {α β : Type} : Procedure α → (α → Procedure β) → Procedure β
  | .done a, f => f a
  | .step s next, f => .step s fun reply => (next reply).bind f

/-- Changes the result. -/
def map {α β : Type} (f : α → β) (p : Procedure α) : Procedure β := p.bind fun a => .done (f a)

end Procedure

end WidgetForge
