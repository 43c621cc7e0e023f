import WidgetForge.Surroundings

/-!
# Asking the operator

When a widget cannot be saved where it belongs, the operator is asked for another place. A picker is
what puts the question: it answers with a path, declines, or fails. What it answers may depend on
its surroundings, and it may change them, as a program does that makes a folder for the file.
-/

namespace WidgetForge.Operator

open Disk

/-- The question where a widget is to be saved. -/
structure Prompt where
  /-- The name that the file would have. -/
  name : String
  /-- The extension of that name, empty if it has none. -/
  extension : String
  /-- The folder where the file was to be saved. -/
  folder : Option Pathname
  deriving DecidableEq, Repr

/-- The answer to a prompt: a path, or none if the operator declines. -/
abbrev Answer := Except IoError (Option Pathname)

/-- What answers prompts, and how it leaves its surroundings. -/
abbrev Picker := Surroundings → Prompt → Answer × Surroundings

/-- The picker that leaves its surroundings as they are. -/
def Picker.answering (answer : Surroundings → Prompt → Answer) : Picker :=
  fun s prompt => (answer s prompt, s)

/-- The picker for when there is no operator; it declines. -/
def Picker.declining : Picker := .answering fun _ _ => .ok none

end WidgetForge.Operator
