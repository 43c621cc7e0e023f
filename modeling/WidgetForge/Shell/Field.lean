import WidgetForge.Shell.Pattern

/-!
# Fields

What a word stands for is first a row of pieces, which remember what was quoted. It is then cut into
fields where a value that is not quoted holds a separator, or where one parameter ends and the next
begins. Something quoted makes a field even if it is empty.
-/

namespace WidgetForge.Shell

/-- A piece of what a word stands for. -/
inductive Piece where
  /-- A character; `splits` says that it separates fields if it is a separator. -/
  | char (c : Char) (quoted splits : Bool)
  /-- The place between two parameters. -/
  | gap
  /-- Something quoted and empty. -/
  | empty
  deriving DecidableEq

namespace Piece

/-- The pieces of a value. -/
def ofValue (quoted : Bool) (value : String) : List Piece :=
  if quoted && value.isEmpty then [.empty] else value.toList.map fun c => .char c quoted !quoted

/-- The pieces of several values. -/
def ofValues (quoted : Bool) : List String → List Piece
  | [] => []
  | [value] => ofValue quoted value
  | value :: rest => ofValue quoted value ++ .gap :: ofValues quoted rest

/-- The piece as one that may separate fields, unless it is quoted. -/
def splitting : Piece → Piece
  | .char c false _ => .char c false true
  | p => p

/-- The marks of pieces that are not cut; `separator` stands between parameters. -/
def marks (separator : List Mark) (pieces : List Piece) : List Mark :=
  pieces.flatMap fun p =>
    match p with
    | .char c quoted _ => [⟨c, quoted⟩]
    | .gap => separator
    | .empty => []

/-- The text of pieces that are not cut. -/
def text (separator : String) (pieces : List Piece) : String :=
  String.ofList ((marks (separator.toList.map fun c => ⟨c, true⟩) pieces).map Mark.char)

end Piece

/-- What has been cut so far. -/
structure Cutting where
  /-- The fields that are complete, last first. -/
  fields : List (List Mark)
  /-- The field that is open, last mark first. -/
  field : Option (List Mark)
  /-- Whether a blank has just ended a field. -/
  afterBlank : Bool

namespace Cutting

/-- Ends the open field. -/
def finish (c : Cutting) (afterBlank : Bool) : Cutting :=
  match c.field with
  | none => { c with afterBlank := afterBlank && c.afterBlank }
  | some marks => ⟨marks.reverse :: c.fields, none, afterBlank⟩

/-- Whether a separator is a blank, of which several count as one. -/
def isBlank (c : Char) : Bool := c = ' ' || c = '\t' || c = '\n'

/-- Goes on with a piece. -/
def step (separators : List Char) (cutting : Cutting) : Piece → Cutting
  | .gap => cutting.finish false
  | .empty => { cutting with field := some (cutting.field.getD []), afterBlank := false }
  | .char c quoted splits =>
    if splits && separators.contains c then
      if isBlank c then cutting.finish true
      else if cutting.field.isSome then cutting.finish false
      else if cutting.afterBlank then { cutting with afterBlank := false }
      else ⟨[] :: cutting.fields, none, false⟩
    else
      { cutting with field := some (⟨c, quoted⟩ :: cutting.field.getD []), afterBlank := false }

end Cutting

/-- The fields of some pieces. -/
def fieldsOf (separators : List Char) (pieces : List Piece) : List (List Mark) :=
  ((pieces.foldl (Cutting.step separators) ⟨[], none, false⟩).finish false).fields.reverse

end WidgetForge.Shell
