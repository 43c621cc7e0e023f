import WidgetForge.Operator.Prompt
import WidgetForge.Text.Blank

/-!
# Asking on the terminal

The operator sees what could not be saved and answers with one line. A blank line declines. The
answer is a path; if it leads to a folder the file gets its own name in there, and if it has no
extension it gets that of the file.
-/

namespace WidgetForge.Operator.Terminal

open Disk Text

/-- What the operator sees. -/
def question (p : Prompt) : String :=
  "Could not save to the widgets folder.\n" ++
    (match p.folder with
      | some folder => "Intended location: " ++ folder.text ++ "\n"
      | none => "") ++
    "Save " ++ p.name ++ " to (empty to cancel): "

/-- The first line of some octets, with its line feed. -/
def firstLine : Octets → Octets
  | [] => []
  | b :: rest => if b = 10 then [b] else b :: firstLine rest

/-- The path in a line, if it is not blank. -/
def pathIn (line : Octets) : Answer :=
  match Utf8.decode line with
  | .error _ => .error .notText
  | .ok text => .ok (if allBlank text then none else some ⟨trim text⟩)

/-- Where a file goes if this path was answered. -/
def place (p : Prompt) (path : Pathname) (isFolder : Bool) : Pathname :=
  if isFolder then path.join p.name
  else if path.extension?.isNone && !p.extension.isEmpty then path.withExtension p.extension
  else path

/-- The answer in a line. -/
def answer (line : Octets) (isFolder : Pathname → Bool) (p : Prompt) : Answer :=
  (pathIn line).map fun path => path.map fun path => place p path (isFolder path)

/-- The picker that asks on the terminal: it shows the question and takes a line of the input. -/
def picker : Picker := fun s p =>
  let line := firstLine s.input
  (answer line s.tree.isFolder p,
    { s with input := s.input.drop line.length }.complain (Utf8.encode (question p)))

end WidgetForge.Operator.Terminal
