import WidgetForge.Utility.Escape
import WidgetForge.Utility.Lines

/-!
# Programs that work on columns

A line is looked at as octets in columns, or as fields with a mark between them.
-/

namespace WidgetForge.Utility

open Machine Text

/-! ### Selected columns -/

/-- The columns from one to another; without a last one they go on to the end. -/
structure Span where
  /-- The first column, counted from one. -/
  first : Nat
  /-- The last column. -/
  last : Option Nat
  deriving DecidableEq

/-- Whether a column is in a span. -/
def Span.holds (n : Nat) (s : Span) : Bool := s.first ≤ n && s.last.all (n ≤ ·)

/-- What is selected: octets or fields. -/
inductive Selection where
  /-- Octets. -/
  | octets
  /-- Fields. -/
  | fields
  deriving DecidableEq

/-- The pieces of a list of spans. -/
def spanWords : List Char → List (List Char)
  | [] => [[]]
  | c :: rest =>
    if c = ',' || c = ' ' || c = '\t' then [] :: spanWords rest
    else
      match spanWords rest with
      | [] => [[c]]
      | w :: ws => (c :: w) :: ws

/-- The span that a word writes, or a complaint. -/
def Selection.span (u : Selection) (word : List Char) : Except String Span :=
  let invalid :=
    match u with
    | .fields => "invalid field value " ++ Quoting.quoted (String.ofList word)
    | .octets => "invalid byte/character position " ++ Quoting.quoted (String.ofList word)
  let zero :=
    match u with
    | .fields => "fields are numbered from 1"
    | .octets => "byte/character positions are numbered from 1"
  let range :=
    match u with
    | .fields => "invalid field range"
    | .octets => "invalid byte or character range"
  let first := word.takeWhile Char.isDigit
  match word.drop first.length with
  | [] =>
    if first.isEmpty || digitsValue first = 0 then .error zero
    else .ok ⟨digitsValue first, some (digitsValue first)⟩
  | '-' :: last =>
    if !last.all Char.isDigit then
      .error (if last.contains '-' then range else
        match u with
        | .fields => "invalid field value " ++ Quoting.quoted (String.ofList last)
        | .octets => "invalid byte/character position " ++ Quoting.quoted (String.ofList last))
    else if first.isEmpty && last.isEmpty then .error "invalid range with no endpoint: -"
    else if !first.isEmpty && digitsValue first = 0 then .error zero
    else
      let first := if first.isEmpty then 1 else digitsValue first
      if last.isEmpty then .ok ⟨first, none⟩
      else if digitsValue last < first then .error "invalid decreasing range"
      else .ok ⟨first, some (digitsValue last)⟩
  | _ => .error invalid

/-- The spans in order, those that overlap made into one. -/
def mergeSpans (spans : List Span) : List Span :=
  let sorted := spans.mergeSort fun a b => a.first ≤ b.first
  (sorted.foldl (fun done s =>
    match done with
    | [] => [s]
    | d :: rest =>
      if d.last.all (s.first ≤ ·) then
        { d with last := d.last.bind fun a => s.last.map fun b => max a b } :: rest
      else s :: done) []).reverse

/-- The spans of the columns that are in none of some. -/
def complement (start : Nat) : List Span → List Span
  | [] => [⟨start, none⟩]
  | s :: rest =>
    let behind : List Span :=
      match s.last with
      | none => []
      | some last => complement (last + 1) rest
    if start < s.first then ⟨start, some (s.first - 1)⟩ :: behind else behind

/-- The selected octets of a line, with a text between those of spans that do not touch. -/
def selectOctets (spans : List Span) (between : List Char) (line : List Char) : List Char :=
  let pieces := spans.map fun s =>
    let behind := line.drop (s.first - 1)
    s.last.elim behind fun last => behind.take (last + 1 - s.first)
  List.intercalate between (pieces.filter fun piece => !piece.isEmpty)

/-- The selected fields of a line with the text between them; a line without the mark is kept as it
is, or left out. -/
def selectFields (spans : List Span) (mark : Char) (between : List Char) (only : Bool)
    (line : List Char) : Option (List Char) :=
  let fields := split mark line
  if fields.length ≤ 1 then if only then none else some line
  else
    let numbered := fields.mapIdx fun i field => (i + 1, field)
    some (List.intercalate between
      ((numbered.filter fun f => spans.any (Span.holds f.1)).map Prod.snd))

/-- Prints selected columns of lines. -/
def cut : Program := fun p =>
  let o : Options :=
    ⟨"nsCz", "bcfdO", [("bytes", 'b'), ("characters", 'c'), ("fields", 'f'), ("delimiter", 'd'),
      ("only-delimited", 's'), ("complement", 'C'), ("output-delimiter", 'O'),
      ("zero-terminated", 'z')], true⟩
  withOptions o 1 p fun g => do
    let lists := g.options.filter fun option => "bcf".toList.contains option.1
    match lists with
    | [] => misused p 1 "you must specify a list of bytes, characters, or fields"
    | [(letter, list)] =>
      let u : Selection := if letter = 'f' then .fields else .octets
      let mark := (g.value? 'd').getD "\t"
      if g.has 'd' && 1 < mark.length then misused p 1 "the delimiter must be a single character"
      else if g.has 'd' && u ≠ .fields then
        misused p 1 "an input delimiter may be specified only when operating on fields"
      else if g.has 's' && u ≠ .fields then
        misused p 1
          "suppressing non-delimited lines makes sense\n\tonly when operating on fields"
      else
        match (spanWords list.toList).mapM u.span with
        | .error complaint => misused p 1 complaint
        | .ok spans =>
          let merged := mergeSpans spans
          let spans := if g.has 'C' then complement 1 merged else merged
          let mark := mark.toList.headD (Char.ofNat 0)
          let between := (g.value? 'O').elim (if u = .fields then [mark] else []) String.toList
          let lineEnd := g.lineEnd
          eachFile p g.operands fun _ text => do
            let lines := linesBy lineEnd text.toList
            let shown := lines.filterMap fun line =>
              match u with
              | .fields => selectFields spans mark between (g.has 's') line
              | .octets => some (selectOctets spans between line)
            p.print (String.ofList (textBy lineEnd shown))
    | _ => misused p 1 "only one list may be specified"

/-! ### Lines side by side -/

/-- The marks in a word, in which backslashes have a meaning; a mark may be nothing. -/
def marksOf : List Char → List (Option Char)
  | [] => []
  | ['\\'] => []
  | '\\' :: c :: rest =>
    (if c = '0' then none
      else some (((controls.lookup c).map octet).getD c)) :: marksOf rest
  | c :: rest => some c :: marksOf rest

/-- Texts with the marks between them, one after the other and again from the first. -/
def joinByMarks (marks : List (Option Char)) : Nat → List (List Char) → List Char
  | _, [] => []
  | _, [cs] => cs
  | i, cs :: rest =>
    cs ++ ((marks[i % marks.length]?).bind id).toList ++ joinByMarks marks (i + 1) rest

/-- The rows of some columns, up to the end of the longest. -/
def rowsOf (columns : List (List (List Char))) : List (List (List Char)) :=
  let height := columns.foldl (fun n c => max n c.length) 0
  (List.range height).map fun i => columns.map fun c => c.getD i []

/-- The lines of each file, where those that read the input take turns. -/
def columnsOf (files : List (Option (List (List Char)))) (input : List (List Char)) :
    List (List (List Char)) :=
  let dashes := files.countP Option.isNone
  (files.foldl (fun (done, turn) file =>
    match file with
    | some lines => (done ++ [lines], turn)
    | none =>
      let own := (input.mapIdx fun i line => (i, line)).filterMap fun (i, line) =>
        if i % dashes = turn then some line else none
      (done ++ [own], turn + 1)) (([] : List (List (List Char))), 0)).1

/-- Prints the lines of files side by side. -/
def paste : Program := fun p =>
  let o : Options :=
    ⟨"sz", "d", [("delimiters", 'd'), ("serial", 's'), ("zero-terminated", 'z')], true⟩
  withOptions o 1 p fun g => do
    let marks := marksOf ((g.value? 'd').getD "\t").toList
    let marks := if marks.isEmpty then [none] else marks
    let lineEnd := g.lineEnd
    if g.has 's' then
      eachFile p g.operands fun _ text =>
        p.print (String.ofList (joinByMarks marks 0 (linesBy lineEnd text.toList) ++ [lineEnd]))
    else
      let files := if g.operands.isEmpty then ["-"] else g.operands
      let mut columns : List (Option (List (List Char))) := []
      let mut input : List (List Char) := []
      for file in files do
        if file = "-" then
          columns := columns ++ [none]
          if input.isEmpty then
            match ← p.contents file with
            | .ok text => input := linesBy lineEnd text.toList
            | .error _ => pure ()
        else
          match ← p.contents file with
          | .ok text => columns := columns ++ [some (linesBy lineEnd text.toList)]
          | .error e =>
            reportFile p file e
            return 1
      let rows := rowsOf (columnsOf columns input)
      p.print (String.ofList (rows.flatMap fun row => joinByMarks marks 0 row ++ [lineEnd]))
      return 0

/-! ### The width of lines -/

/-- The column behind a character. -/
def columnAfter (octets : Bool) (column : Nat) (c : Char) : Nat :=
  if octets then column + 1
  else if c = '\x08' then column - 1
  else if c = '\r' then 0
  else if c = '\t' then column + 8 - column % 8
  else column + 1

/-- The column behind a text. -/
def columnBehind (octets : Bool) (cs : List Char) : Nat := cs.foldl (columnAfter octets) 0

/-- A line cut into lines that are no wider than a width; `taken` is what has been put into the
current one, last character first. -/
def foldFrom (octets blanks : Bool) (width : Nat) : Nat → List Char → List Char → List (List Char)
  | 0, taken, rest => [taken.reverse ++ rest]
  | _, taken, [] => [taken.reverse]
  | fuel + 1, taken, c :: rest =>
    let column := columnAfter octets (columnBehind octets taken.reverse) c
    if width < column && !taken.isEmpty then
      let behind := taken.takeWhile fun c => !(c = ' ' || c = '\t')
      if blanks && behind.length < taken.length then
        (taken.drop behind.length).reverse ::
          foldFrom octets blanks width fuel behind (c :: rest)
      else taken.reverse :: foldFrom octets blanks width fuel [] (c :: rest)
    else foldFrom octets blanks width fuel (c :: taken) rest

/-- Cuts lines that are too wide. -/
def fold : Program := fun p =>
  let old (w : String) : Bool :=
    w.toList.head? = some '-' && (plainNumber? (w.toList.drop 1)).isSome
  let words := p.arguments.flatMap fun w =>
    if old w then ["-w", String.ofList (w.toList.drop 1)] else [w]
  let o : Options := ⟨"bs", "w", [("bytes", 'b'), ("spaces", 's'), ("width", 'w')], true⟩
  withOptions o 1 { p with arguments := words } fun g => do
    let word := (g.value? 'w').getD "80"
    match plainNumber? word.toList with
    | some (width + 1) =>
      eachFile p g.operands fun _ text =>
        let folded := (split '\n' text.toList).flatMap fun line =>
          foldFrom (g.has 'b') (g.has 's') (width + 1) (2 * line.length + 1) [] line
        p.print (String.ofList (List.intercalate ['\n'] folded))
    | some 0 =>
      p.fail 1 ("invalid number of columns: " ++ Quoting.quoted word ++ ": " ++
        Disk.OsError.wording ⟨34⟩)
    | none => p.fail 1 ("invalid number of columns: " ++ Quoting.quoted word)

/-- The columns at which tabs end: those that are listed, and then every so many. -/
structure Stops where
  /-- The columns that are listed. -/
  listed : List Nat
  /-- The distance between the others, if there are any. -/
  every : Option Nat

/-- The stop behind a column. -/
def Stops.after (s : Stops) (column : Nat) : Nat :=
  match s.listed.find? (column < ·), s.every with
  | some stop, _ => stop
  | none, some n => column + n - column % n
  | none, none => column + 1

/-- The stops that a word writes. -/
def stopsOf (word : String) : Option Stops :=
  match (spanWords word.toList).mapM plainNumber? with
  | some [n + 1] => some ⟨[], some (n + 1)⟩
  | some (n :: ns) => if n = 0 then none else some ⟨n :: ns, none⟩
  | _ => none

/-- A line with blanks in the place of tabs. -/
def expandLine (s : Stops) (initial : Bool) : Nat → List Char → List Char
  | _, [] => []
  | column, c :: rest =>
    if c = '\t' then
      let next := s.after column
      List.replicate (next - column) ' ' ++ expandLine s initial next rest
    else if initial && c ≠ ' ' then c :: rest
    else c :: expandLine s initial (if c = '\x08' then column - 1 else column + 1) rest

/-- A line with tabs in the place of blanks; `blanks` says how many wait to be written, and the last
number is the column. -/
def unexpandLine (s : Stops) (all : Bool) : Nat → Nat → List Char → List Char
  | blanks, _, [] => List.replicate blanks ' '
  | blanks, column, c :: rest =>
    if c = ' ' then
      if s.after column = column + 1 && 0 < blanks then
        '\t' :: unexpandLine s all 0 (column + 1) rest
      else unexpandLine s all (blanks + 1) (column + 1) rest
    else if c = '\t' then '\t' :: unexpandLine s all 0 (s.after column) rest
    else if all then List.replicate blanks ' ' ++ c :: unexpandLine s all 0 (column + 1) rest
    else List.replicate blanks ' ' ++ c :: rest

/-- Does something with each line of files, by the stops that are given. -/
def tabbing (p : Invocation) (g : Given) (f : Stops → List Char → List Char) : Act Nat := do
  let word := (g.value? 't').getD "8"
  match stopsOf word with
  | none =>
    if (spanWords word.toList).any fun w => w.isEmpty || !w.all Char.isDigit then
      p.fail 1 ("tab size contains invalid character(s): " ++ Quoting.quoted word)
    else p.fail 1 "tab size cannot be 0"
  | some s =>
    eachFile p g.operands fun _ text =>
      p.print (String.ofList (List.intercalate ['\n'] ((split '\n' text.toList).map (f s))))

/-- Puts blanks in the place of tabs. -/
def expand : Program := fun p =>
  withOptions ⟨"i", "t", [("initial", 'i'), ("tabs", 't')], true⟩ 1 p fun g =>
    tabbing p g fun s => expandLine s (g.has 'i') 0

/-- Puts tabs in the place of blanks. -/
def unexpand : Program := fun p =>
  withOptions ⟨"af", "t", [("all", 'a'), ("first-only", 'f'), ("tabs", 't')], true⟩ 1 p fun g =>
    tabbing p g fun s => unexpandLine s ((g.has 'a' || g.has 't') && !g.has 'f') 0 0

end WidgetForge.Utility
