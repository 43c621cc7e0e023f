import WidgetForge.Editing.Reader

/-!
# Running scripts that edit lines

The state of a run is the buffer, the store and the lines that are left. Each line is the start of a
round, in which the commands are run one after the other; a round ends with the buffer printed,
unless a command says otherwise.
-/

namespace WidgetForge.Editing

open Machine Utility Text

/-- A line of the input. -/
structure Line where
  /-- Its text. -/
  text : List Char
  /-- Whether its end is there. -/
  ended : Bool
  /-- The file that it is from. -/
  file : String

/-- What is printed behind a line. -/
inductive Later where
  /-- A text. -/
  | text (cs : List Char)
  /-- A file. -/
  | file (name : String)
  /-- The next line of a file. -/
  | line (name : String)

/-- How a script is run. -/
structure Options where
  /-- Whether the buffer is printed only when a command asks for it. -/
  quiet : Bool
  /-- The mark at the end of a line. -/
  lineEnd : Char

/-- The state of a run. -/
structure State where
  /-- The buffer. -/
  buffer : List Char
  /-- The store. -/
  kept : List Char
  /-- The lines that are left. -/
  lines : List Line
  /-- The number of the current line. -/
  number : Nat
  /-- Whether the current line has an end. -/
  ended : Bool
  /-- The file of the current line. -/
  file : String
  /-- What is printed behind the current line, last first. -/
  later : List Later
  /-- Whether anything has been replaced since the last question. -/
  replaced : Bool
  /-- The ranges that have begun, by the numbers of their commands, each with the number of its last
  line if that is known. -/
  ranges : List (Nat × Option Nat)
  /-- The ranges from the start that are over. -/
  finished : List Nat
  /-- The search that was used last. -/
  last : Search
  /-- Whether the end of the last printed line has been left out. -/
  unfinished : Bool
  /-- How many lines of each file have been printed. -/
  read : List (String × Nat)

/-- How a round ends. -/
inductive Ending where
  /-- The buffer is printed. -/
  | printed
  /-- The buffer is dropped. -/
  | dropped
  /-- The next round goes on with what is left of the buffer. -/
  | again
  /-- The run ends with a status, and the buffer is printed if `prints`. -/
  | stops (status : Nat) (prints : Bool)

/-- What is done in a run. -/
abbrev Run := ExceptT String (StateT State Act)

namespace Run

/-- Does something on the machine. -/
def act {α : Type} (a : Act α) : Run α := liftM a

/-- Prints a text. -/
def print (p : Invocation) (cs : List Char) : Run Unit := do
  let s ← get
  if s.unfinished then
    act (p.print "\n")
    set { s with unfinished := false }
  act (p.print (String.ofList cs))

/-- Prints a line; the end of the last line is left out if the input has none. -/
def printLine (p : Invocation) (o : Options) (cs : List Char) : Run Unit := do
  let ended := (← get).ended
  print p (if ended then cs ++ [o.lineEnd] else cs)
  if !ended then modify fun s => { s with unfinished := true }

/-- Writes a line to a file. -/
def writeLine (p : Invocation) (o : Options) (file : String) (cs : List Char) : Run Unit := do
  if file = "/dev/stdout" then printLine p o cs
  else
    let _ ← act (p.store file .append (String.ofList (cs ++ [o.lineEnd])))

/-- Prints what waits to be printed behind the line. -/
def printLater (p : Invocation) (o : Options) : Run Unit := do
  let waiting := (← get).later.reverse
  modify fun s => { s with later := [] }
  for l in waiting do
    match l with
    | .text cs => print p cs
    | .file name =>
      match ← act (p.contents (if name = "/dev/stdin" then "-" else name)) with
      | .ok content => if !content.isEmpty then print p content.toList
      | .error _ => pure ()
    | .line name =>
      let n := ((← get).read.lookup name).getD 0
      modify fun s => { s with read := (name, n + 1) :: s.read }
      match ← act (p.contents name) with
      | .ok content =>
        match (linesBy o.lineEnd content.toList)[n]? with
        | some line => print p (line ++ [o.lineEnd])
        | none => pure ()
      | .error _ => pure ()

/-- Takes the next line, and says whether there was one. -/
def takeLine : Run (Option Line) := do
  let s ← get
  match s.lines with
  | [] => return none
  | line :: rest =>
    set { s with lines := rest, number := s.number + 1, ended := line.ended, file := line.file }
    return some line

/-! ### Addresses -/

/-- The search that is meant. -/
def searchFor (search : Search) : Run (Regex × Regex.Manner) := do
  match search with
  | some found =>
    modify fun s => { s with last := some found }
    return found
  | none =>
    match (← get).last with
    | some found => return found
    | none => throw "no previous regular expression"

/-- Whether the buffer matches. -/
def isFound (search : Search) : Run Bool := do
  let (r, m) ← searchFor search
  return (r.search m (← get).buffer.toArray 0).isSome

/-- Whether the current line is meant. -/
def isMeant : Address → Run Bool
  | .line n => return (← get).number = n
  | .every first step => do
    let n := (← get).number
    return if step = 0 then n = first else first ≤ n && (n - first) % step = 0
  | .last => return (← get).lines.isEmpty
  | .found search => isFound search

/-- Whether the current line is in the scope of the command of a number. -/
def isInScope (command : Nat) : Scope → Run Bool
  | .all => return true
  | .one a => isMeant a
  | .fromStart search => do
    if (← get).finished.contains command then return false
    if ← isFound search then modify fun s => { s with finished := command :: s.finished }
    return true
  | .range first limit => do
    let begins (stop : Option Nat) : Run Unit :=
      modify fun s => { s with ranges := (command, stop) :: s.ranges }
    let finish : Run Unit :=
      modify fun s => { s with ranges := s.ranges.filter fun r => r.1 ≠ command }
    let n := (← get).number
    match (← get).ranges.lookup command with
    | some (some stop) =>
      if stop ≤ n then finish
      return n ≤ stop
    | some none =>
      match limit with
      | .address a => if ← isMeant a then finish
      | _ => finish
      return true
    | none =>
      if !(← isMeant first) then return false
      match limit with
      | .address (.line stop) => if n < stop then begins (some stop)
      | .address .last => if !(← get).lines.isEmpty then begins none
      | .address _ => begins none
      | .plus k => if 0 < k then begins (some (n + k))
      | .multiple k => if k ≠ 0 then begins (some (n + k - n % k))
      return true

/-! ### Replacing -/

/-- Adds characters to a text whose letters change; `next` is meant for the first of them only. -/
def addChars (all : Case) (next : Option Case) (cs : List Char) : List Char × Option Case :=
  match cs with
  | [] => ([], next)
  | c :: rest => ((next.getD all).apply c :: rest.map all.apply, none)

/-- What takes the place of a match. -/
def fill (text : Array Char) (found : Regex.Match) : Case → Option Case → List Piece → List Char
  | _, _, [] => []
  | all, next, .char c :: rest =>
    let (cs, next) := addChars all next [c]
    cs ++ fill text found all next rest
  | all, next, .group n :: rest =>
    let (cs, next) := addChars all next (found.group text n)
    cs ++ fill text found all next rest
  | _, _, .all c :: rest => fill text found c none rest
  | all, _, .next c :: rest => fill text found all (some c) rest

/-- The text behind a place with matches replaced, and whether there were any. `count` is the number
of matches so far, `previous` where the last of them ended; `fuel` bounds the number of places. -/
def replaceFrom (r : Regex) (m : Regex.Manner) (s : Substitution) (text : Array Char) :
    Nat → Nat → Option Nat → Nat → List Char × Bool
  | 0, _, _, place => ((text.extract place text.size).toList, false)
  | fuel + 1, count, previous, place =>
    let upTo (stop : Nat) : List Char := (text.extract place stop).toList
    match if text.size < place then none else r.search m text place with
    | none => (upTo text.size, false)
    | some found =>
      let before := upTo found.start
      let isEmpty := found.start = found.stop
      let one : List Char := (text.extract found.stop (found.stop + 1)).toList
      let next := if isEmpty then found.stop + 1 else found.stop
      let behind := if isEmpty then one else []
      if isEmpty && previous = some found.start then
        let (rest, any) := replaceFrom r m s text fuel count none next
        (before ++ one ++ rest, any)
      else
        let count := count + 1
        if count < s.number then
          let (rest, any) := replaceFrom r m s text fuel count (some found.stop) next
          (before ++ (text.extract found.start found.stop).toList ++ behind ++ rest, any)
        else
          let new := fill text found .kept none s.replacement
          let (rest, _) : List Char × Bool :=
            if s.all then replaceFrom r m s text fuel count (some found.stop) next
            else ((text.extract next text.size).toList, false)
          (before ++ new ++ behind ++ rest, true)

/-- Replaces matches in the buffer. -/
def substitute (p : Invocation) (o : Options) (s : Substitution) : Run Unit := do
  let (r, m) ← searchFor s.search
  let text := (← get).buffer.toArray
  let (new, any) := replaceFrom r m s text (2 * text.size + 3) 0 none 0
  if any then
    modify fun state => { state with buffer := new, replaced := true }
    if s.prints then printLine p o new
    match s.file with
    | some file => writeLine p o file new
    | none => pure ()

/-! ### Commands -/

/-- The pieces by which the characters of a text can all be seen. -/
def visiblePieces (cs : List Char) : List (List Char) :=
  cs.map fun c =>
    if c = '\\' then ['\\', '\\'] else if isVisible c then [c] else Quoting.escaped c

/-- Pieces in lines of a width, each but the last with a backslash at its end. -/
def wrapped (width : Nat) : Nat → List (List Char) → List Char
  | _, [] => ['$', '\n']
  | column, piece :: rest =>
    if width ≠ 0 && width ≤ column + piece.length then
      '\\' :: '\n' :: piece ++ wrapped width piece.length rest
    else piece ++ wrapped width (column + piece.length) rest

/-- The first line of the buffer. -/
def firstOf (o : Options) (cs : List Char) : List Char := cs.takeWhile (· ≠ o.lineEnd)

/-- Where the script goes on behind a command: at the command of a number, or nowhere. -/
abbrev Step := Except Ending Nat

/-- Does what a command does; `here` is its number. -/
def perform (p : Invocation) (o : Options) (here : Nat) (c : Command) : Run Step := do
  let s ← get
  let on : Step := .ok (here + 1)
  let later (l : Later) : Run Step := do
    set { s with later := l :: s.later }
    return on
  match c.action with
  | .none => return on
  | .block _ => return on
  | .number =>
    print p (Nat.toDigits 10 s.number ++ ['\n'])
    return on
  | .append text => later (.text text)
  | .insert text =>
    print p text
    return on
  | .change text =>
    let going := s.ranges.any fun r => r.1 = here
    match c.scope with
    | .range _ _ => if !going || c.inverted then print p text
    | _ => print p text
    return .error .dropped
  | .jump target => return .ok target
  | .jumpIf target =>
    set { s with replaced := false }
    return if s.replaced then .ok target else on
  | .jumpUnless target =>
    set { s with replaced := false }
    return if s.replaced then on else .ok target
  | .delete => return .error .dropped
  | .deleteFirst =>
    if s.buffer.contains o.lineEnd then
      set { s with buffer := s.buffer.drop ((firstOf o s.buffer).length + 1) }
      return .error .again
    else return .error .dropped
  | .fileName =>
    print p (s.file.toList ++ ['\n'])
    return on
  | .fetch =>
    set { s with buffer := s.kept }
    return on
  | .fetchMore =>
    set { s with buffer := s.buffer ++ o.lineEnd :: s.kept }
    return on
  | .store =>
    set { s with kept := s.buffer }
    return on
  | .storeMore =>
    set { s with kept := s.kept ++ o.lineEnd :: s.buffer }
    return on
  | .show width =>
    let width := width.getD 70
    print p (wrapped (if width = 1 then 0 else width) 0 (visiblePieces s.buffer))
    return on
  | .next =>
    if s.lines.isEmpty then return .error .printed
    else
      if !o.quiet then printLine p o s.buffer
      printLater p o
      match ← takeLine with
      | some line => modify fun s => { s with buffer := line.text }
      | none => pure ()
      return on
  | .nextMore =>
    if s.lines.isEmpty then return .error .printed
    else
      printLater p o
      match ← takeLine with
      | some line => modify fun s => { s with buffer := s.buffer ++ o.lineEnd :: line.text }
      | none => pure ()
      return on
  | .print =>
    printLine p o s.buffer
    return on
  | .printFirst =>
    print p (firstOf o s.buffer ++ [o.lineEnd])
    return on
  | .quit status => return .error (.stops status true)
  | .leave status => return .error (.stops status false)
  | .readFile file => later (.file file)
  | .readLine file => later (.line file)
  | .substitute how =>
    substitute p o how
    return on
  | .writeFile file =>
    writeLine p o file s.buffer
    return on
  | .writeFirst file =>
    writeLine p o file (firstOf o s.buffer)
    return on
  | .exchange =>
    set { s with buffer := s.kept, kept := s.buffer }
    return on
  | .replaceEach table =>
    set { s with buffer := s.buffer.map fun c => (table.lookup c).getD c }
    return on
  | .empty =>
    set { s with buffer := [] }
    return on

/-- Runs the commands from a number on; `fuel` bounds how many. -/
def commands (p : Invocation) (o : Options) (script : Array Command) : Nat → Nat → Run Ending
  | 0, _ => return .stops 1 false
  | fuel + 1, here => do
    match script[here]? with
    | none => return .printed
    | some c =>
      if (← isInScope here c.scope) != c.inverted then
        match ← perform p o here c with
        | .ok next => commands p o script fuel next
        | .error ending => return ending
      else
        match c.action with
        | .block stop => commands p o script fuel (stop + 1)
        | _ => commands p o script fuel (here + 1)

/-- The most commands that are run in a round. -/
def limit : Nat := 100000

/-- Runs rounds until no line is left; `fresh` tells that a line is to be taken. Gives the status if
a command ends the run. -/
def rounds (p : Invocation) (o : Options) (script : Array Command) : Nat → Bool → Run (Option Nat)
  | 0, _ => return none
  | fuel + 1, fresh => do
    let goes ←
      if fresh then
        match ← takeLine with
        | some line =>
          modify fun s => { s with buffer := line.text, replaced := false }
          pure true
        | none => pure false
      else pure true
    if !goes then return none
    let printBuffer : Run Unit := do
      if !o.quiet then printLine p o (← get).buffer
    match ← commands p o script limit 0 with
    | .printed =>
      printBuffer
      printLater p o
      rounds p o script fuel true
    | .dropped =>
      printLater p o
      rounds p o script fuel true
    | .again =>
      printLater p o
      rounds p o script fuel false
    | .stops status prints =>
      if prints then
        printBuffer
        printLater p o
      return some status

end Run

/-- The lines of a file. -/
def linesOfFile (o : Options) (file : String) (content : List Char) : List Line :=
  let lines := linesBy o.lineEnd content
  let last := content.getLast? = some o.lineEnd
  lines.mapIdx fun i text => ⟨text, last || i + 1 < lines.length, file⟩

/-- Runs a script on lines: the status if a command ends the run, or a complaint. -/
def run (p : Invocation) (o : Options) (script : Array Command) (lines : List Line) :
    Act (Except String (Option Nat)) := do
  let start : State :=
    { buffer := [], kept := [], lines := lines, number := 0, ended := true, file := "-"
      later := [], replaced := false, ranges := [], finished := [],
      last := none, unfinished := false
      read := [] }
  let (result, _) ← (Run.rounds p o script (Run.limit + lines.length) true).run.run start
  return result

end WidgetForge.Editing
