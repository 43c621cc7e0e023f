import WidgetForge.Utility.Lines

/-!
# Programs that count

What is counted are lines, words and octets, or the lines themselves get numbers.
-/

namespace WidgetForge.Utility

open Machine Text

/-- The number of words in a text; `inside` tells that a word has begun. Characters that cannot be
seen neither begin a word nor end one. -/
def countWords : Bool → List Char → Nat
  | _, [] => 0
  | inside, c :: rest =>
    if isSpace c then countWords false rest
    else if !inside && isVisible c then countWords true rest + 1
    else countWords inside rest

/-- The number of columns of the longest line; `column` and `longest` are those so far. -/
def longestLine (column longest : Nat) : List Char → Nat
  | [] => max column longest
  | c :: rest =>
    if c = '\n' || c = '\r' || c = '\x0c' then longestLine 0 (max column longest) rest
    else if c = '\t' then longestLine (column + 8 - column % 8) longest rest
    else longestLine (if isVisible c then column + 1 else column) longest rest

/-- The counts of a text: lines, words, characters, octets, and columns of the longest line. -/
def countsOf (text : List Char) : List Nat :=
  [text.count '\n', countWords false text, text.length, text.length, longestLine 0 0 text]

/-- The counts of two texts together. -/
def addCounts (a b : List Nat) : List Nat :=
  (a.zip b).mapIdx fun i (x, y) => if i = 4 then max x y else x + y

/-- What a file adds to the width of the columns: the number of its octets, or nothing if it is no
ordinary file, or that it is not there. -/
def sizeOf (p : Invocation) (file : String) : Act (Option (Option Nat)) := do
  let m ← get
  let place : Option (Option Disk.Location) :=
    if file = "-" then
      match (p.descriptors.lookup 0).bind fun n => m.channels[n]? with
      | some (.file place _ _) => some (some place)
      | _ => some none
    else
      match m.tree.locate (pathOf file) with
      | .ok place => some (some place)
      | .error _ => none
  return place.map fun place => place.bind fun place => (m.tree.file? place).map List.length

/-- The width of the columns for some files. -/
def columnWidth (p : Invocation) (files : List String) : Act Nat := do
  let sizes ← files.mapM (sizeOf p)
  let known := sizes.filterMap id
  let least := if known.contains none then 7 else 1
  let total := known.foldl (fun n size => n + size.getD 0) 0
  return max least (Nat.toDigits 10 total).length

/-- Counts what is in files. -/
def wc : Program := fun p =>
  let o : Options :=
    ⟨"lwcmL", "", [("lines", 'l'), ("words", 'w'), ("bytes", 'c'), ("chars", 'm'),
      ("max-line-length", 'L')], true⟩
  withOptions o 1 p fun g => do
    let chosen := ['l', 'w', 'm', 'c', 'L'].map fun letter =>
      if g.options.isEmpty then letter = 'l' || letter = 'w' || letter = 'c' else g.has letter
    let files := if g.operands.isEmpty then ["-"] else g.operands
    let width ←
      if files.length = 1 && chosen.count true = 1 then pure 1 else columnWidth p files
    let row (counts : List Nat) (name : String) : String :=
      let shown := (counts.zip chosen).filterMap fun (n, isChosen) =>
        if isChosen then some (setRight width n) else none
      " ".intercalate shown ++ (if name.isEmpty then "" else " " ++ name) ++ "\n"
    let mut total := [0, 0, 0, 0, 0]
    let mut status := 0
    for file in files do
      let name := if g.operands.isEmpty then "" else file
      match ← p.contents file with
      | .ok content =>
        let counts := countsOf content.toList
        total := addCounts total counts
        p.print (row counts name)
      | .error e =>
        status := 1
        reportFile p file e
        if e = .isFolder then p.print (row [0, 0, 0, 0, 0] name)
    if 1 < files.length then p.print (row total "total")
    return status

/-! ### Numbers before lines -/

/-- How lines are numbered. -/
structure Numbering where
  /-- The style of each part of a page: header, body and footer. -/
  styles : List Char
  /-- How much the number grows. -/
  step : Int
  /-- The first number. -/
  first : Int
  /-- The columns of a number. -/
  width : Nat
  /-- How a number is set: `ln`, `rn` or `rz`. -/
  setting : String
  /-- What stands behind a number. -/
  separator : String
  /-- How many empty lines get one number. -/
  group : Nat
  /-- Whether the numbers go on from page to page. -/
  continuous : Bool

/-- A number as it stands before a line. -/
def Numbering.text (s : Numbering) (n : Int) : List Char :=
  let digits := Nat.toDigits 10 n.natAbs
  let sign := if n < 0 then ['-'] else []
  let missing := s.width - sign.length - digits.length
  if s.setting = "ln" then sign ++ digits ++ List.replicate missing ' '
  else if s.setting = "rz" then sign ++ List.replicate missing '0' ++ digits
  else List.replicate missing ' ' ++ sign ++ digits

/-- The lines with numbers; `part` is the part of the page, and `empty` counts empty lines. -/
def Numbering.lines (s : Numbering) : Nat → Nat → Int → List (List Char) → List (List Char)
  | _, _, _, [] => []
  | part, empty, n, line :: rest =>
    match ["\\:\\:\\:", "\\:\\:", "\\:"].findIdx? fun mark => mark.toList = line with
    | some part => [] :: s.lines part 0 (if part = 0 && !s.continuous then s.first else n) rest
    | none =>
      let blank := List.replicate (s.width + s.separator.length) ' ' ++ line
      let numbered := s.text n ++ s.separator.toList ++ line
      match s.styles.getD part 'n' with
      | 'a' =>
        if line.isEmpty && empty + 1 < s.group then blank :: s.lines part (empty + 1) n rest
        else numbered :: s.lines part 0 (n + s.step) rest
      | 't' =>
        if line.isEmpty then blank :: s.lines part 0 n rest
        else numbered :: s.lines part 0 (n + s.step) rest
      | _ => blank :: s.lines part 0 n rest

/-- Numbers the lines of files. -/
def nl : Program := fun p =>
  let o : Options :=
    ⟨"p", "bdfhilnsvw", [("body-numbering", 'b'), ("section-delimiter", 'd'),
      ("footer-numbering", 'f'), ("header-numbering", 'h'), ("line-increment", 'i'),
      ("join-blank-lines", 'l'), ("number-format", 'n'), ("number-separator", 's'),
      ("starting-line-number", 'v'), ("number-width", 'w'), ("no-renumber", 'p')], true⟩
  withOptions o 1 p fun g => do
    let number (letter : Char) (usual : Int) : Int :=
      match ((g.value? letter).getD "").toList with
      | '-' :: cs => (plainNumber? cs).elim usual fun n => -(n : Int)
      | '+' :: cs => (plainNumber? cs).elim usual fun n => (n : Int)
      | cs => (plainNumber? cs).elim usual fun n => (n : Int)
    let style (letter usual : Char) : Char := ((g.value? letter).bind (·.toList.head?)).getD usual
    let bad : Option String :=
      g.options.findSome? fun (letter, value) =>
        match letter with
        | 'b' | 'f' | 'h' =>
          if ["a", "t", "n"].contains value then none
          else
            let part := if letter = 'b' then "body" else if letter = 'f' then "footer" else "header"
            some ("invalid " ++ part ++ " numbering style: " ++ Quoting.quoted value)
        | 'n' =>
          if ["ln", "rn", "rz"].contains value then none
          else some ("invalid line numbering format: " ++ Quoting.quoted value)
        | _ => none
    match bad with
    | some complaint => misused p 1 complaint
    | none =>
      let s : Numbering :=
        { styles := [style 'h' 'n', style 'b' 't', style 'f' 'n']
          step := number 'i' 1
          first := number 'v' 1
          width := (number 'w' 6).toNat
          setting := (g.value? 'n').getD "rn"
          separator := (g.value? 's').getD "\t"
          group := (number 'l' 1).toNat
          continuous := g.has 'p' }
      let number ← Machine.opened (.memory [])
      let quiet : Invocation := { p with descriptors := (1, number) :: p.descriptors }
      let status ← eachFile quiet g.operands fun _ text => quiet.print text
      match ← Machine.takeAll number with
      | .ok octets =>
        p.print (String.ofList
          (textBy '\n' (s.lines 1 0 s.first (linesOf (Octetwise.read octets).toList))))
      | .error _ => pure ()
      return status

end WidgetForge.Utility
