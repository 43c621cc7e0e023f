import WidgetForge.Operator.Prompt
import WidgetForge.Text.Blank
import WidgetForge.Text.Replace
import WidgetForge.Text.Split

/-!
# Asking through a program

An operator may be asked through a program: it is run with the prompt in its arguments, and the
first line that it prints and that is not blank is the answer. A program that prints nothing, or
that does not succeed, declines.

What running a program comes to is a parameter here, as it is in all results about asking. The
programs that a host is run with are in `Operator.Programs`.
-/

namespace WidgetForge.Operator

open Disk Text

/-- How a program ended. -/
structure Ended where
  /-- Whether it succeeded. -/
  succeeded : Bool
  /-- What it printed. -/
  output : Octets

/-- What running a program with arguments comes to, and how it leaves its surroundings. -/
abbrev Programs := Surroundings → String → List String → Except IoError Ended × Surroundings

/-- A program and its arguments. -/
structure Command where
  /-- The name of the program. -/
  program : String
  /-- Its arguments, in which the parts of the prompt are named. -/
  arguments : List String

namespace Command

/-- The command that a list of words gives. -/
def ofList? : List String → Option Command
  | [] => none
  | program :: arguments => some ⟨program, arguments⟩

/-- The text of the folder of a prompt. -/
def folderText (p : Prompt) : String := (p.folder.map Pathname.text).getD ""

/-- An argument with the parts of the prompt put in: the name first, then the extension, then the
folder. -/
def expand (p : Prompt) (argument : String) : String :=
  replaceAll
    (replaceAll (replaceAll argument "\x7bname\x7d" p.name) "\x7bext\x7d" p.extension)
    "\x7bdir\x7d" (folderText p)

/-- The first line that is not blank, without the blanks at its ends. -/
def firstLine (text : String) : Option String :=
  (((split '\n' text.toList).map trimChars).find? fun line => !line.isEmpty).map String.ofList

/-- The answer of a program that has ended. -/
def answer (ended : Ended) : Option Pathname :=
  if ended.succeeded then (firstLine (Utf8.decodeLossy ended.output)).map Pathname.mk else none

/-- The picker that runs the command, which is given nothing to read. -/
def picker (c : Command) (programs : Programs) : Picker := fun s prompt =>
  let (ended, left) :=
    programs { s with input := [] } c.program (c.arguments.map (expand prompt))
  (ended.map answer, { left with input := s.input })

end Command

/-- The picker for a list of words; it declines if there are none. -/
def Picker.ofWords (programs : Programs) (words : Option (List String)) : Picker :=
  match words.bind Command.ofList? with
  | some c => c.picker programs
  | none => Picker.declining

end WidgetForge.Operator
