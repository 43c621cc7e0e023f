import WidgetForge.Text.Split
import WidgetForge.Utility.Options

/-!
# Programs that work on lines

A text is a list of lines, each with an end behind it; only the last may lack its end. Such a
program takes the files that it is given one after the other, or its input if there are none.
-/

namespace WidgetForge.Utility

open Machine Text

/-- The lines of a text without their ends; what stands behind the last end is a line too if it is
not empty. -/
def linesBy (mark : Char) (text : List Char) : List (List Char) :=
  let pieces := Text.split mark text
  if pieces.getLast? = some [] then pieces.dropLast else pieces

/-- The lines of a text. -/
def linesOf (text : List Char) : List (List Char) := linesBy '\n' text

/-- The text of some lines, all of which get an end. -/
def textBy (mark : Char) (lines : List (List Char)) : List Char :=
  lines.flatMap fun line => line ++ [mark]

/-- The lines of a text with their ends. -/
def endedLines (mark : Char) (text : List Char) : List (List Char) :=
  let pieces := Text.split mark text
  let whole := pieces.dropLast.map (· ++ [mark])
  match pieces.getLast? with
  | some (c :: cs) => whole ++ [c :: cs]
  | _ => whole

/-- The mark behind each line for a program that may be told to take NUL characters. -/
def Given.lineEnd (g : Given) : Char := if g.has 'z' then Char.ofNat 0 else '\n'

/-- Does something with the content of each file, or of the input if there is none, and complains of
those that cannot be read. -/
def eachFile (p : Invocation) (files : List String) (f : String → String → Act Unit) : Act Nat := do
  let mut status := 0
  for file in if files.isEmpty then ["-"] else files do
    match ← p.contents file with
    | .ok content => f file content
    | .error e =>
      reportFile p file e
      status := 1
  return status

/-- A text set to the right. -/
def padLeft (width : Nat) (cs : List Char) : List Char :=
  List.replicate (width - cs.length) ' ' ++ cs

/-- A number set to the right. -/
def setRight (width n : Nat) : String := String.ofList (padLeft width (Nat.toDigits 10 n))

/-- The number of a text of digits. -/
def digitsValue (cs : List Char) : Nat := cs.foldl (fun n c => 10 * n + (c.toNat - 48)) 0

/-- The number that a text of digits writes, if it is one. -/
def plainNumber? (cs : List Char) : Option Nat :=
  if cs.isEmpty || !cs.all Char.isDigit then none else some (digitsValue cs)

/-- What the letters behind a number multiply it by. -/
def multiples : List (String × Nat) :=
  let powers (mark : Char) (n : Nat) : List (String × Nat) :=
    [(String.singleton mark, Nat.pow 1024 n), (String.ofList [mark, 'i', 'B'], Nat.pow 1024 n),
      (String.ofList [mark, 'B'], Nat.pow 1000 n)]
  [("", 1), ("b", 512), ("k", 1024), ("kB", 1000), ("kiB", 1024), ("m", 1024 * 1024)] ++
    powers 'K' 1 ++ powers 'M' 2 ++ powers 'G' 3 ++ powers 'T' 4 ++ powers 'P' 5 ++ powers 'E' 6

/-- The number that digits and letters behind them write. -/
def size? (cs : List Char) : Option Nat :=
  let digits := cs.takeWhile Char.isDigit
  if digits.isEmpty then none
  else (multiples.lookup (String.ofList (cs.drop digits.length))).map (· * digitsValue digits)

end WidgetForge.Utility
