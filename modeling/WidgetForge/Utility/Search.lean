import WidgetForge.Regex.Reader
import WidgetForge.Disk.Entries
import WidgetForge.Shell.Pattern

/-!
# Finding lines

Lines are selected that match one of some patterns, or that match none. They are printed, perhaps
with the lines around them, or only counted, or the names of their files are printed.
-/

namespace WidgetForge.Utility.Search

open Disk Machine Text

/-- Which lines are selected. -/
structure Query where
  /-- The patterns. -/
  patterns : List Regex
  /-- How lines are looked at. -/
  manner : Regex.Manner
  /-- Whether a match must be made of whole words. -/
  words : Bool
  /-- Whether a match must be a whole line. -/
  whole : Bool
  /-- Whether the lines are selected that do not match. -/
  inverted : Bool

/-- The end of the longest match at a place. -/
def Query.endAt (q : Query) (text : Array Char) (place : Nat) : Option Nat :=
  let isWord (n : Nat) : Bool := (text[n]?).any Regex.isWordChar
  let fits (stop : Nat) : Bool :=
    (!q.whole || (place = 0 && stop = text.size)) &&
      (!q.words || (!(0 < place && isWord (place - 1)) && !isWord stop))
  let ends := q.patterns.flatMap fun r =>
    (Regex.ends r.asksForGroups text q.manner r ⟨place, []⟩).map Regex.Reached.place
  (ends.filter fits).max?

/-- The matches in a line that are not empty, from a place on; `fuel` bounds the number of places.
-/
def Query.hits (q : Query) (line : Array Char) : Nat → Nat → List (Nat × Nat)
  | 0, _ => []
  | fuel + 1, place =>
    if line.size ≤ place then []
    else
      match q.endAt line place with
      | some stop =>
        if place < stop then (place, stop) :: q.hits line fuel stop
        else q.hits line fuel (place + 1)
      | none => q.hits line fuel (place + 1)

/-- Whether a line is selected. -/
def Query.selects (q : Query) (line : Array Char) : Bool :=
  ((List.range (line.size + 1)).any fun place => (q.endAt line place).isSome) != q.inverted

/-- What is printed. -/
structure Display where
  /-- Whether only the parts that match are printed. -/
  onlyMatches : Bool
  /-- Whether lines are numbered. -/
  numbers : Bool
  /-- Whether the octets before a line are counted. -/
  offsets : Bool
  /-- Whether tabs make columns. -/
  tabs : Bool
  /-- Whether lines around selected ones are asked for. -/
  around : Bool
  /-- How many lines before a selected one are printed. -/
  before : Nat
  /-- How many lines behind a selected one are printed. -/
  behind : Nat
  /-- The mark at the end of a line. -/
  lineEnd : Char
  /-- The mark at the end of the name of a file, if it is not the usual one. -/
  nameEnd : Option Char
  /-- Whether matches are shown in colours. -/
  colours : Bool

/-- A text in a colour. -/
def coloured (on : Bool) (code : String) (cs : List Char) : List Char :=
  if on then ("\x1b[" ++ code ++ "m\x1b[K").toList ++ cs ++ "\x1b[m\x1b[K".toList else cs

/-- What stands before a line: the name of its file, its number and its place. -/
def Display.lead (d : Display) (name : Option String) (mark : Char) (number offset : Nat) :
    List Char :=
  let sign := coloured d.colours "36" [mark]
  let file :=
    name.elim [] fun n => coloured d.colours "35" n.toList ++ (d.nameEnd.elim sign fun c => [c])
  let digits (n : Nat) : List Char := coloured d.colours "32" (Nat.toDigits 10 n)
  let number := if d.numbers then digits number ++ sign else []
  let offset := if d.offsets then digits offset ++ sign else []
  let lead := file ++ number ++ offset
  if d.tabs && !lead.isEmpty then lead ++ ['\t'] else lead

/-- A line with its matches in colours. -/
def highlighted (spans : List (Nat × Nat)) (line : Array Char) : List Char :=
  let (shown, last) := spans.foldl (fun (shown, last) (start, stop) =>
    (shown ++ (line.extract last start).toList ++
      coloured true "01;31" (line.extract start stop).toList, stop)) (([] : List Char), 0)
  shown ++ (line.extract last line.size).toList

/-- A line of a file. -/
structure Entry where
  /-- Its number. -/
  number : Nat
  /-- The octets before it. -/
  offset : Nat
  /-- Its text. -/
  text : Array Char
  /-- Whether it is selected. -/
  selected : Bool

/-- The lines of a text; no more are selected than `most` allows, and none behind the last of them
is left. -/
def entriesOf (q : Query) : Nat → Nat → Option Nat → List (List Char) → List Entry
  | _, _, _, [] => []
  | number, offset, most, line :: rest =>
    let text := line.toArray
    let selected := most ≠ some 0 && q.selects text
    let most := if selected then most.map (· - 1) else most
    ⟨number, offset, text, selected⟩ ::
      entriesOf q (number + 1) (offset + line.length + 1) most rest

/-- Whether a line is printed because it is close to a selected one. -/
def Display.isClose (d : Display) (selected : List Nat) (number : Nat) : Bool :=
  selected.any fun n => n ≤ number + d.before && number ≤ n + d.behind

/-- The printed lines of a file. -/
def Display.lines (d : Display) (q : Query) (name : Option String) (entries : List Entry) :
    List (List Char) :=
  let selected := (entries.filter Entry.selected).map Entry.number
  let shown := entries.filter fun e =>
    e.selected || ((d.before ≠ 0 || d.behind ≠ 0) && d.isClose selected e.number)
  let pieces (e : Entry) : List (List Char) :=
    if d.onlyMatches then
      if e.selected && !q.inverted then
        (q.hits e.text (e.text.size + 1) 0).map fun (start, stop) =>
          d.lead name ':' e.number (e.offset + start) ++
            coloured d.colours "01;31" (e.text.extract start stop).toList ++ [d.lineEnd]
      else []
    else
      let line :=
        if d.colours && e.selected && !q.inverted then
          highlighted (q.hits e.text (e.text.size + 1) 0) e.text
        else e.text.toList
      [d.lead name (if e.selected then ':' else '-') e.number e.offset ++ line ++ [d.lineEnd]]
  (shown.foldl (fun (done, last) e =>
    let gap : List (List Char) :=
      match last with
      | some n =>
        if d.around && n + 1 < e.number then [coloured d.colours "36" ['-', '-'] ++ ['\n']] else []
      | none => []
    (done ++ gap ++ pieces e, some e.number)) (([] : List (List Char)), (none : Option Nat))).1

/-- The files at and below a location, each with its path. -/
def filesBelow (t : Tree) : Nat → String → Location → List String
  | 0, _, _ => []
  | fuel + 1, path, place =>
    (t.children place).flatMap fun name =>
      let inside := place ++ [name]
      let text := (if path.isEmpty then "" else path ++ "/") ++ Octetwise.spread name
      if t.hasFolder inside then filesBelow t fuel text inside
      else if (t.file? inside).isSome then [text]
      else []

/-- Whether the last name of a path is one that the options let in. -/
def isLetIn (g : Given) (path : String) : Bool :=
  let name := ((split '/' path.toList).getLastD [])
  let fits (glob : String) : Bool :=
    (Shell.Pattern.ofMarks (glob.toList.map fun c => ⟨c, false⟩)).holds name
  (!g.has 'X' || (g.values 'X').any fits) && !(g.values 'Y').any fits

/-- The options of the program. -/
def options : Options :=
  ⟨"EFGPiyvwxcbqshHnolLrRaIUZTz1234567890", "efmABCOXYV",
    [("extended-regexp", 'E'), ("fixed-strings", 'F'), ("basic-regexp", 'G'), ("perl-regexp", 'P'),
      ("regexp", 'e'), ("file", 'f'), ("ignore-case", 'i'), ("invert-match", 'v'),
      ("word-regexp", 'w'), ("line-regexp", 'x'), ("count", 'c'), ("byte-offset", 'b'),
      ("quiet", 'q'), ("silent", 'q'), ("no-messages", 's'), ("no-filename", 'h'),
      ("with-filename", 'H'), ("line-number", 'n'), ("only-matching", 'o'),
      ("files-with-matches", 'l'), ("files-without-match", 'L'), ("recursive", 'r'),
      ("dereference-recursive", 'R'), ("text", 'a'), ("null", 'Z'), ("initial-tab", 'T'),
      ("null-data", 'z'), ("max-count", 'm'), ("after-context", 'A'), ("before-context", 'B'),
      ("context", 'C'), ("include", 'X'), ("exclude", 'Y')], true⟩

/-- The regular expressions that some lines write. -/
def patternsOf (letter : Char) (lines : List (List Char)) : Except Regex.Fault (List Regex) :=
  lines.mapM fun line =>
    if letter = 'F' then .ok (Regex.ofText line)
    else Regex.read (letter = 'E' || letter = 'P') true line

/-- Complains of the words that the program is given. -/
def misuse (p : Invocation) (complaint : Option String) : Act Nat := do
  match complaint with
  | some text => p.report text
  | none => pure ()
  p.complain ("Usage: " ++ p.name ++ " [OPTION]... PATTERNS [FILE]...\n")
  p.complain ("Try '" ++ p.name ++ " --help' for more information.\n")
  return 2

/-- The words without those that ask for colours, and whether colours are asked for. -/
def withoutColours (words : List String) : List String × Bool :=
  let asks (w : String) : Bool :=
    "--color".toList.isPrefixOf w.toList || "--colour".toList.isPrefixOf w.toList
  (words.filter fun w => !asks w, words.any fun w => w = "--color=always" || w = "--colour=always")

/-- Prints the lines of files that match; `letter` is the usual way to write patterns. -/
def program (letter : Char) : Program := fun p => do
  let (words, colours) := withoutColours p.arguments
  match options.read words with
  | .error complaint => misuse p (some complaint)
  | .ok g =>
    let mut texts : List Char := []
    let mut given := false
    for (option, value) in g.options do
      if option = 'e' then
        texts := texts ++ value.toList ++ ['\n']
        given := true
      else if option = 'f' then
        match ← p.contents value with
        | .error e => return ← p.fail 2 (value ++ ": " ++ e.wording)
        | .ok content =>
          texts := texts ++ textBy '\n' (linesOf content.toList)
          given := true
    let operands := if given then g.operands else g.operands.drop 1
    match given, g.operands with
    | false, [] => misuse p none
    | _, first =>
      let lines := if given then (split '\n' texts).dropLast else split '\n' (first.headD "").toList
      let number? (option : Char) : Option (Option Nat) :=
        (g.value? option).map fun v => plainNumber? v.toList
      let style := (g.last? ['E', 'F', 'G', 'P']).getD letter
      let digits := g.options.filterMap fun o => if o.1.isDigit then some o.1 else none
      let isKind (line : List Char) : Bool :=
        "[:".toList.isPrefixOf line && ":]".toList.isSuffixOf line
      match ['A', 'B', 'C'].find? fun c => number? c = some none with
      | some c => p.fail 2 ((g.value? c).getD "" ++ ": invalid context length argument")
      | none =>
        if number? 'm' = some none then p.fail 2 "invalid max count"
        else if style ≠ 'F' && lines.any isKind then
          p.fail 2 "character class syntax is [[:space:]], not [:space:]"
        else
          match patternsOf style lines with
          | .error e => p.fail 2 e.message
          | .ok patterns =>
            let q : Query :=
              { patterns := patterns
                manner := ⟨g.has 'i' || g.has 'y', false⟩
                words := g.has 'w'
                whole := g.has 'x'
                inverted := g.has 'v' }
            let around := (number? 'C').bind id |>.getD (digitsValue digits)
            let silent := g.has 'q' || g.has 'l' || g.has 'L' || g.has 'c'
            let d : Display :=
              { onlyMatches := g.has 'o'
                numbers := g.has 'n'
                offsets := g.has 'b'
                tabs := g.has 'T'
                around := g.has 'A' || g.has 'B' || g.has 'C' || !digits.isEmpty
                before := ((number? 'B').bind id).getD around
                behind := ((number? 'A').bind id).getD around
                lineEnd := g.lineEnd
                nameEnd := if g.has 'Z' then some (Char.ofNat 0) else none
                colours := colours }
            let t := (← get).tree
            let deep := g.has 'r' || g.has 'R'
            let mut files : List String := []
            if operands.isEmpty then
              files := if deep then filesBelow t (t.nodes.length + 1) "" t.here else ["-"]
            else
              for file in operands do
                match t.locate (pathOf file) with
                | .ok place =>
                  if deep && t.hasFolder place then
                    let path :=
                      if Pathname.endsWithSlash ⟨file⟩ then file.toList.dropLast else file.toList
                    files := files ++ filesBelow t (t.nodes.length + 1) (String.ofList path) place
                  else files := files ++ [file]
                | .error _ => files := files ++ [file]
            let several := 1 < operands.length || (deep && (operands.isEmpty ||
              operands.any fun f => t.isFolder (pathOf f)))
            let named :=
              match g.last? ['h', 'H'] with
              | some 'h' => false
              | some _ => true
              | none => several
            let mut found := false
            let mut failed := false
            let mut separate := false
            for file in files.filter fun f => f = "-" || isLetIn g f do
              match ← p.contents file with
              | .error e =>
                failed := true
                if !g.has 's' then p.report (file ++ ": " ++ e.wording)
              | .ok content =>
                let entries :=
                  entriesOf q 1 0 ((number? 'm').bind id) (linesBy d.lineEnd content.toList)
                let count := entries.countP Entry.selected
                let name := if file = "-" then "(standard input)" else file
                let title := if named then some name else none
                if 0 < count then found := true
                if g.has 'q' then
                  if found then return 0
                else if g.has 'c' then
                  p.print (String.ofList
                    (({ d with numbers := false, offsets := false }).lead title ':' 0 0 ++
                      Nat.toDigits 10 count ++ ['\n']))
                if g.has 'l' && 0 < count || g.has 'L' && count = 0 then
                  p.print (name ++ (d.nameEnd.elim "\n" String.singleton))
                if !silent then
                  let isBinary := content.toList.contains (Char.ofNat 0) && !g.has 'a' && !g.has 'z'
                  let shown := d.lines q title entries
                  if isBinary then
                    if 0 < count then
                      p.report (name ++ ": binary file matches")
                  else if !shown.isEmpty then
                    if separate && d.around then p.print "--\n"
                    separate := true
                    p.print (String.ofList shown.flatten)
            return if failed then 2 else if found then 0 else 1

end WidgetForge.Utility.Search
