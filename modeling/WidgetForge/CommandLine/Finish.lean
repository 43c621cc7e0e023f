import WidgetForge.CommandLine.Grammar
import WidgetForge.Text.Replace
import WidgetForge.Text.Utf8

/-!
# How programs end
-/

namespace WidgetForge.CommandLine

/-- How a program ends. -/
structure Finish where
  /-- Its exit status. -/
  status : Nat
  /-- What it wrote to its output. -/
  output : String
  /-- What it wrote to its error output. -/
  errors : String
  deriving DecidableEq

/-- The end of a program that has written errors before. -/
def Finish.after (f : Finish) (errors : Text.Octets) : Finish :=
  { f with errors := Text.Utf8.decodeLossy errors ++ f.errors }

/-- Ends a program before it does anything. -/
def Stop.finish (program version : String) : Stop → Finish
  | .version => ⟨0, program ++ " " ++ version ++ "\n", ""⟩
  | .help => ⟨0, "Usage: " ++ program ++ " [OPTIONS]\n", ""⟩
  | .usage => ⟨2, "", "Usage: " ++ program ++ " [OPTIONS]\n"⟩

/-- The version of the programs. -/
def version : String := "0.1.0"

/-- A cause in a list of causes; its further lines are set in. -/
def indented (margin : String) (cause : String) : String :=
  Text.replaceAll cause "\n" ("\n" ++ margin)

/-- Causes behind their numbers. -/
def numbered : Nat → List String → List String
  | _, [] => []
  | n, cause :: rest =>
    let digits := toString n
    (String.ofList (List.replicate (5 - digits.length) ' ') ++ digits ++ ": " ++
      indented "       " cause) :: numbered (n + 1) rest

/-- The report of an error and of what lies behind it. Several causes are numbered. -/
def errorReport : List String → String
  | [] => ""
  | [error] => "Error: " ++ error ++ "\n"
  | [error, cause] => "Error: " ++ error ++ "\n\nCaused by:\n    " ++ indented "    " cause ++ "\n"
  | error :: causes =>
    "Error: " ++ error ++ "\n\nCaused by:\n" ++ "\n".intercalate (numbered 0 causes) ++ "\n"

/-- The integer that a word writes: a sign, if there is one, and digits. -/
def integerIn (word : String) : Option Int64 :=
  let number (cs : List Char) : Option Nat :=
    if cs.isEmpty || !cs.all Char.isDigit then none
    else some (cs.foldl (fun n c => 10 * n + (c.toNat - 48)) 0)
  let read : Option Int :=
    match word.toList with
    | '-' :: cs => (number cs).map fun n => -(n : Int)
    | '+' :: cs => (number cs).map fun n => (n : Int)
    | cs => (number cs).map fun n => (n : Int)
  match read with
  | some i =>
        if -0x8000000000000000 ≤ i ∧ i < 0x8000000000000000 then some (Int64.ofInt i) else none
  | none => none

end WidgetForge.CommandLine
