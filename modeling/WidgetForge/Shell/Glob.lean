import WidgetForge.Machine.Basic
import WidgetForge.Shell.Pattern
import WidgetForge.Text.Split

/-!
# Names of files by patterns

A pattern for paths is cut at its slashes, and each piece is a pattern for names in a folder. A name
that begins with a dot is found only by a pattern that begins with one.
-/

namespace WidgetForge.Shell.Glob

open Disk Machine Text

/-- The marks between slashes. -/
def segments : List Mark → List (List Mark)
  | [] => [[]]
  | m :: rest =>
    if m.char = '/' then [] :: segments rest
    else
      match segments rest with
      | [] => [[m]]
      | segment :: more => (m :: segment) :: more

/-- The text of some marks. -/
def textOf (marks : List Mark) : String := String.ofList (marks.map Mark.char)

/-- The names in the folder at a path, as texts of octets. -/
def namesIn (t : Tree) (path : String) : List String :=
  match t.locate (pathOf (if path.isEmpty then "." else path)) with
  | .error _ => []
  | .ok place =>
    if t.hasFolder place then "." :: ".." :: (t.children place).map Octetwise.spread else []

/-- Whether something stands at a path. -/
def stands (t : Tree) (path : String) : Bool := (t.locate (pathOf path)).toBool

/-- Whether a folder stands at a path. -/
def isFolder (t : Tree) (path : String) : Bool := t.isFolder (pathOf path)

/-- Whether a pattern for names finds a name. -/
def finds (segment : List Mark) (name : String) : Bool :=
  (Pattern.ofMarks segment).holds name.toList &&
    (name.toList.head? ≠ some '.' || segment.head?.any fun m => m.char = '.')

/-- The paths that a list of patterns finds behind a path. -/
def pathsBehind (t : Tree) (path : String) : List (List Mark) → List String
  | [] => []
  | [last] =>
    if Pattern.isNeeded last then ((namesIn t path).filter (finds last)).map (path ++ ·)
    else
      let whole := path ++ textOf last
      if stands t whole then [whole] else []
  | segment :: rest =>
    if Pattern.isNeeded segment then
      let folders := (namesIn t path).filter fun name =>
        finds segment name && isFolder t (path ++ name)
      folders.flatMap fun name => pathsBehind t (path ++ name ++ "/") rest
    else pathsBehind t (path ++ textOf segment ++ "/") rest

/-- The paths that a field finds in order, or itself if it finds none. -/
def paths (t : Tree) (field : List Mark) : List String :=
  let found := if Pattern.isNeeded field then pathsBehind t "" (segments field) else []
  if found.isEmpty then [textOf field]
  else found.mergeSort fun a b => Octetwise.write a ≤ Octetwise.write b

end WidgetForge.Shell.Glob
