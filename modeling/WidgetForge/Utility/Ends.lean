import WidgetForge.Utility.Lines

/-!
# Programs that print the start or the end of what they read

How much is printed is a number of lines or octets, counted from the start or from the end.
-/

namespace WidgetForge.Utility.Ends

open Machine Text

/-- What is counted. -/
inductive Measure where
  /-- Lines. -/
  | lines
  /-- Octets. -/
  | octets
  deriving DecidableEq

/-- How much is printed. -/
structure Extent where
  /-- What is counted. -/
  measure : Measure
  /-- How many. -/
  count : Nat
  /-- Whether they are counted from the other end than usual: all but so many. -/
  opposite : Bool

/-- The pieces of a text that are counted. -/
def Measure.pieces (mark : Char) (text : List Char) : Measure → List (List Char)
  | .lines => endedLines mark text
  | .octets => text.map fun c => [c]

/-- The start of a text. -/
def Extent.start (e : Extent) (mark : Char) (text : List Char) : List Char :=
  let pieces := e.measure.pieces mark text
  (if e.opposite then pieces.take (pieces.length - e.count) else pieces.take e.count).flatten

/-- The end of a text. With the count from the start, it begins with the piece of that number. -/
def Extent.final (e : Extent) (mark : Char) (text : List Char) : List Char :=
  let pieces := e.measure.pieces mark text
  (pieces.drop (if e.opposite then e.count - 1 else pieces.length - e.count)).flatten

/-- The options for a count in its old form: digits with letters behind them. -/
def olden (signs digits letters : List Char) : List String :=
  let factor := letters.filter fun c => c = 'b' || c = 'k' || c = 'm'
  let measured := if !factor.isEmpty || letters.contains 'c' then "-c" else "-n"
  let kept := (letters.filter fun c => c = 'q' || c = 'v' || c = 'z').map fun c =>
    String.ofList ['-', c]
  measured :: String.ofList (signs ++ digits ++ factor) :: kept

/-- The words of a program that shows the start, with a count in its old form written as options, or
the letter that does not belong there. -/
def startWords (words : List String) : Except Char (List String) :=
  match words.map String.toList with
  | ('-' :: c :: cs) :: _ =>
    let digits := (c :: cs).takeWhile Char.isDigit
    let letters := (c :: cs).drop digits.length
    if digits.isEmpty then .ok words
    else
      match letters.find? fun c => !"bcklmqvz".toList.contains c with
      | some c => .error c
      | none => .ok (olden [] digits letters ++ words.drop 1)
  | _ => .ok words

/-- The words of a program that shows the end, with a count in its old form written as options. That
form is known only with one operand, or none. -/
def endWords (words : List String) : Except Char (List String) :=
  let isOption (w : String) : Bool := w.toList.head? = some '-' && w ≠ "-"
  let alone :=
    match words with
    | [_] => true
    | [_, second] => !isOption second || second = "--"
    | [_, second, _] => second = "--"
    | _ => false
  match words.map String.toList with
  | (sign :: cs) :: _ =>
    let digits := cs.takeWhile Char.isDigit
    let letters := cs.drop digits.length
    let known := ["", "b", "c", "l", "f", "bf", "cf", "lf"].contains (String.ofList letters)
    if (sign = '-' || sign = '+') && !digits.isEmpty && known && alone then
      .ok (olden (if sign = '+' then ['+'] else []) digits letters ++ words.drop 1)
    else if sign = '-' && !digits.isEmpty then .error (digits.headD '0')
    else .ok words
  | _ => .ok words

/-- How a program shows one of its ends. -/
structure Style where
  /-- The sign before a count from the other end. -/
  sign : Char
  /-- What is shown of a text. -/
  part : Extent → Char → List Char → List Char
  /-- Whether the rest of a file is left to be read by others. -/
  leaves : Bool
  /-- The words with a count in its old form written as options, or a letter that is out of place.
  -/
  words : List String → Except Char (List String)
  /-- The complaint about such a letter, and whether help is offered with it. -/
  complaint : String × Bool

/-- The start is shown. -/
def Style.head : Style :=
  ⟨'-', Extent.start, true, startWords, ("invalid trailing option -- ", true)⟩

/-- The end is shown. -/
def Style.tail : Style :=
  ⟨'+', Extent.final, false, endWords, ("option used in invalid context -- ", false)⟩

/-- The extent that a word writes. -/
def Style.extent? (s : Style) (m : Measure) (word : String) : Option Extent :=
  match word.toList with
  | c :: rest =>
    if c = s.sign then (size? rest).map fun n => ⟨m, n, true⟩
    else if c = '+' || (c = '-' && s.sign = '+') then (size? rest).map fun n => ⟨m, n, false⟩
    else (size? (c :: rest)).map fun n => ⟨m, n, false⟩
  | [] => none

/-- What is read of a channel to show its part. -/
def Style.read (s : Style) (part : List Char → List Char) (number : Nat) :
    Act (Except Disk.OsError (List Char)) := do
  let isFile :=
    match (← get).channels[number]? with
    | some (.file _ _ _) => true
    | _ => false
  if s.leaves && isFile then
    let cut (octets : Octets) : Octets :=
      octets.take (part (Octetwise.read octets).toList).length
    return (← Machine.takeWith cut number).map fun octets => (Octetwise.read octets).toList
  else
    return (← Machine.takeAll number).map fun octets => part (Octetwise.read octets).toList

/-- Shows a part of each file, under its name if there are more than one. -/
def Style.program (s : Style) : Program := fun p => do
  let o : Options :=
    ⟨"qvzfF", "cns", [("lines", 'n'), ("bytes", 'c'), ("quiet", 'q'), ("silent", 'q'),
    ("verbose", 'v'),
      ("zero-terminated", 'z'), ("follow", 'f'), ("retry", 'F'), ("sleep-interval", 's')], true⟩
  match s.words p.arguments with
  | .error c =>
    let text := s.complaint.1 ++ String.singleton c
    if s.complaint.2 then misused p 1 text else p.fail 1 text
  | .ok words =>
  withOptions o 1 { p with arguments := words } fun g => do
    let measures := g.options.filterMap fun (letter, value) =>
      if letter = 'n' then some (Measure.lines, value)
      else if letter = 'c' then some (Measure.octets, value)
      else none
    match measures.find? fun (m, value) => (s.extent? m value).isNone with
    | some (m, value) =>
      let noun := if m = .lines then "lines" else "bytes"
      let shown := if value.toList.head? = some '-' then String.ofList (value.toList.drop 1)
        else value
      p.fail 1 ("invalid number of " ++ noun ++ ": " ++ Quoting.quoted shown)
    | none =>
      let extent :=
        (measures.getLast?.bind fun (m, value) => s.extent? m value).getD ⟨.lines, 10, false⟩
      let files := if g.operands.isEmpty then ["-"] else g.operands
      let titled :=
        match g.last? ['q', 'v'] with
        | some 'q' => false
        | some _ => true
        | none => 1 < files.length
      let mut status := 0
      let mut first := true
      for file in files do
        let opened : Except Disk.OsError Nat ←
          if file = "-" then pure ((p.descriptors.lookup 0).elim (.error .badDescriptor) .ok)
          else Machine.openAt (pathOf file) .read p.descriptors
        let name := if file = "-" then "standard input" else file
        match opened with
        | .error e =>
          status := 1
          p.report ("cannot open " ++ Quoting.forShell file ++ " for reading: " ++ e.wording)
        | .ok number =>
          if titled then
            p.print ((if first then "" else "\n") ++ "==> " ++ name ++ " <==\n")
            first := false
          match ← s.read (s.part extent g.lineEnd) number with
          | .ok shown => p.print (String.ofList shown)
          | .error e =>
            status := 1
            p.report ("error reading " ++ Quoting.forShell name ++ ": " ++ e.wording)
      return status

end WidgetForge.Utility.Ends

namespace WidgetForge.Utility

open Machine

/-- Prints the first lines of files. -/
def head : Program := Ends.Style.head.program

/-- Prints the last lines of files. -/
def tail : Program := Ends.Style.tail.program

end WidgetForge.Utility
