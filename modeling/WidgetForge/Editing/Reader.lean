import WidgetForge.Editing.Script
import WidgetForge.Regex.Reader
import WidgetForge.Utility.Escape

/-!
# Reading scripts that edit lines

A script is read command by command. Blocks and jumps name their targets only later on, so they are
read with labels first, and the labels give way to numbers of commands when all has been read.
-/

namespace WidgetForge.Editing

open Utility

/-- Why a script cannot be read: how many characters were left, or nothing if all had been read, and
the complaint. -/
structure Fault where
  /-- How many characters were left. -/
  left : Option Nat
  /-- The complaint. -/
  complaint : String
  /-- Whether the complaint names the place. -/
  placed : Bool

/-- Reads a script. -/
abbrev Parse := StateT (List Char) (Except Fault)

/-- A command whose target is a label, or the end of a block. -/
inductive Draft where
  /-- A command that is complete. -/
  | done (c : Command)
  /-- A label. -/
  | label (name : String)
  /-- A jump to a label, or to the end. -/
  | jump (scope : Scope) (inverted : Bool) (kind : Nat → Action) (label : String)
  /-- The start of a block. -/
  | opening (scope : Scope) (inverted : Bool)
  /-- The end of a block. -/
  | closing

namespace Parse

/-- Complains of what has just been read. -/
def fail {α : Type} (complaint : String) : Parse α := do
  throw ⟨some (← get).length, complaint, true⟩

/-- The next character, which stays. -/
def peek : Parse (Option Char) := return (← get).head?

/-- Takes the next character. -/
def take : Parse (Option Char) := do
  let cs ← get
  set (cs.drop 1)
  return cs.head?

/-- Takes characters as long as a test holds. -/
def takeWhile (test : Char → Bool) : Parse (List Char) := do
  let cs ← get
  set (cs.dropWhile test)
  return cs.takeWhile test

/-- Passes over blanks. -/
def skipBlanks : Parse Unit := do
  let _ ← takeWhile fun c => isSpace c && c ≠ '\n'

/-- Takes a number. -/
def number : Parse Nat := return digitsValue (← takeWhile Char.isDigit)

end Parse

open Parse

/-! ### Texts between marks -/

/-- The end of brackets in a regular expression: what stands before it and behind it. -/
def insideBrackets : Nat → List Char → List Char → Option (List Char × List Char)
  | 0, _, _ => none
  | _, _, [] => none
  | fuel + 1, taken, c :: rest =>
    if c = ']' && !taken.isEmpty && taken ≠ ['^'] then some ((c :: taken).reverse, rest)
    else if c = '\n' then none
    else
      match c, rest with
      | '[', mark :: _ =>
        if mark = ':' || mark = '.' || mark = '=' then
          let inner := (rest.drop 1).takeWhile (· ≠ mark)
          match rest.drop (1 + inner.length) with
          | _ :: ']' :: left =>
            insideBrackets fuel (']' :: mark :: inner.reverse ++ mark :: '[' :: taken) left
          | _ => insideBrackets fuel (c :: taken) rest
        else insideBrackets fuel (c :: taken) rest
      | '\\', 'n' :: left => insideBrackets fuel ('\n' :: taken) left
      | '\\', ']' :: _ => insideBrackets fuel ('\\' :: taken) rest
      | '\\', d :: left =>
        match if d = 't' || d = 'f' || d = 'v' || d = 'a' || d = 'r' then controls.lookup d
          else none with
        | some n => insideBrackets fuel (octet n :: taken) left
        | none => insideBrackets fuel (c :: taken) rest
      | _, _ => insideBrackets fuel (c :: taken) rest

/-- The text up to a mark and what stands behind it. In a regular expression brackets may hold the
mark; `fuel` bounds the number of characters. -/
def scanTo (mark : Char) (isRegex : Bool) : Nat → List Char → Option (List Char × List Char)
  | 0, _ => none
  | _, [] => none
  | fuel + 1, c :: rest =>
    let add (cs : List Char) (left : List Char) : Option (List Char × List Char) :=
      (scanTo mark isRegex fuel left).map fun (more, behind) => (cs ++ more, behind)
    if c = mark then some ([], rest)
    else if c = '\n' && isRegex then none
    else if c = '\\' then
      match rest with
      | [] => none
      | d :: left =>
        if d = mark then
          if isRegex && "*.[]^$+?(){|}".toList.contains d then add ['[', d, ']'] left
          else if !isRegex && d = '&' then add ['\\', d] left
          else add [d] left
        else if d = 'n' && isRegex then add ['\n'] left
        else if d = '\n' && isRegex then add ['\n'] left
        else add ['\\', d] left
    else if c = '[' && isRegex then
      match insideBrackets (rest.length + 1) [] rest with
      | some (inside, left) => add ('[' :: inside) left
      | none => none
    else add [c] rest

/-- Takes the text up to a mark. -/
def textUpTo (mark : Char) (isRegex : Bool) (complaint : String) : Parse (List Char) := do
  let cs ← get
  match scanTo mark isRegex (cs.length + 1) cs with
  | some (text, rest) =>
    set rest
    return text
  | none =>
    set (if isRegex then (cs.dropWhile (· ≠ '\n')) else ([] : List Char))
    fail complaint

/-- The octet that an escape stands for, and what is left behind it. -/
def escapeAt : List Char → Option (Char × List Char)
  | 'x' :: rest =>
    match takeDigits 16 Text.Hexadecimal.value 2 0 rest with
    | (n, left) => if left.length < rest.length then some (octet n, left) else none
  | 'o' :: rest =>
    match takeDigits 8 octalValue 3 0 rest with
    | (n, left) => if left.length < rest.length then some (octet n, left) else none
  | 'd' :: rest =>
    let digit (c : Char) : Option Nat := if c.isDigit then some (c.toNat - 48) else none
    match takeDigits 10 digit 3 0 rest with
    | (n, left) => if left.length < rest.length then some (octet n, left) else none
  | 'c' :: c :: rest => some (octet (c.toUpper.toNat ^^^ 64), rest)
  | c :: rest =>
    if ['a', 'f', 'r', 't', 'v'].contains c then (controls.lookup c).map fun n => (octet n, rest)
    else none
  | [] => none

/-- A regular expression with the escapes for octets resolved; `fuel` bounds the number of
characters. -/
def resolved : Nat → List Char → List Char
  | 0, cs => cs
  | _, [] => []
  | fuel + 1, '\\' :: rest =>
    match escapeAt rest with
    | some (c, left) =>
      (if "*.[]^$\\/+?(){|}".toList.contains c then ['\\', c] else [c]) ++ resolved fuel left
    | none =>
      match rest with
      | c :: left => '\\' :: c :: resolved fuel left
      | [] => ['\\']
  | fuel + 1, c :: rest => c :: resolved fuel rest

/-- The search that a text writes; an empty text means the last one. -/
def searchOf (extended : Bool) (m : Regex.Manner) (text : List Char) : Parse Search := do
  if text.isEmpty then return none
  match Regex.read extended false (resolved text.length text) with
  | .ok r => return some (r, m)
  | .error e => fail e.message

/-! ### Addresses -/

/-- The letters behind a search. -/
def searchMarks : Parse Regex.Manner := do
  let letters ← takeWhile fun c => c = 'I' || c = 'M'
  return ⟨letters.contains 'I', letters.contains 'M'⟩

/-- Reads an address, if there is one. -/
def address? (extended : Bool) : Parse (Option Address) := do
  match ← peek with
  | some '$' =>
    let _ ← take
    return some .last
  | some '/' =>
    let _ ← take
    let text ← textUpTo '/' true "unterminated address regex"
    return some (.found (← searchOf extended (← searchMarks) text))
  | some '\\' =>
    let _ ← take
    match ← take with
    | none => fail "unexpected `,'"
    | some mark =>
      let text ← textUpTo mark true "unterminated address regex"
      return some (.found (← searchOf extended (← searchMarks) text))
  | some c =>
    if c.isDigit then
      let n ← number
      skipBlanks
      match ← peek with
      | some '~' =>
        let _ ← take
        return some (.every n (← number))
      | _ => return some (.line n)
    else return none
  | none => return none

/-- Reads where a range ends. -/
def limit (extended : Bool) : Parse Limit := do
  match ← peek with
  | some '+' =>
    let _ ← take
    return .plus (← number)
  | some '~' =>
    let _ ← take
    return .multiple (← number)
  | _ =>
    match ← address? extended with
    | some a => return .address a
    | none => fail "unexpected `,'"

/-- Reads the lines that a command is meant for. -/
def scope (extended : Bool) : Parse Scope := do
  match ← address? extended with
  | none => return .all
  | some a =>
    skipBlanks
    match ← peek with
    | some ',' =>
      let _ ← take
      skipBlanks
      let stop ← limit extended
      match a, stop with
      | .line 0, .address (.found s) => return .fromStart s
      | a, stop => return .range a stop
    | _ => return .one a

/-- Whether the lines are meant from line zero on, which is not there. -/
def Scope.isZero : Scope → Bool
  | .one (.line 0) | .range (.line 0) _ => true
  | _ => false

/-! ### Commands -/

/-- Passes over blanks and the end of a command. -/
def endOfCommand : Parse Unit := do
  skipBlanks
  match ← peek with
  | none => return
  | some '\x7d' => return
  | some '#' => return
  | some c =>
    let _ ← take
    if c ≠ '\n' && c ≠ ';' then fail "extra characters after command"

/-- Takes the name of a file, up to the end of the line. -/
def fileName : Parse String := do
  skipBlanks
  let name ← takeWhile (· ≠ '\n')
  if name.isEmpty then fail "missing filename in r/R/w/W commands"
  let _ ← take
  return String.ofList name

/-- Takes a label. -/
def labelName (semicolon : Bool) : Parse String := do
  skipBlanks
  let name ← takeWhile fun c => !(isSpace c || (semicolon && (c = ';' || c = '\x7d')))
  return String.ofList name

/-- The lines of a text up to one that does not end with a backslash; `fuel` bounds their length. -/
def continued : Nat → List Char → List Char × List Char
  | 0, cs => ([], cs)
  | _, [] => ([], [])
  | fuel + 1, c :: rest =>
    let add (c : Char) (left : List Char) : List Char × List Char :=
      let (text, behind) := continued fuel left
      (c :: text, behind)
    if c = '\n' then (['\n'], rest)
    else if c = '\\' then
      match rest with
      | [] => ([], [])
      | d :: left =>
        match escapeAt rest with
        | some (e, left) => add e left
        | none => add d left
    else add c rest

/-- Takes the text of a command that prints one. -/
def ownText : Parse (List Char) := do
  skipBlanks
  match ← peek with
  | none => fail "expected \\ after `a', `c' or `i'"
  | some '\n' => fail "expected \\ after `a', `c' or `i'"
  | some '\\' =>
    let _ ← take
    let blanks ← takeWhile fun c => isSpace c && c ≠ '\n'
    match ← peek with
    | some '\n' =>
      let _ ← take
    | none => pure ()
    | some _ =>
      let cs ← get
      set (blanks ++ cs)
  | some _ => pure ()
  let cs ← get
  let (text, rest) := continued (cs.length + 1) cs
  set rest
  return if text.isEmpty || text.getLast? = some '\n' then text else text ++ ['\n']

/-- The pieces of a replacement. -/
def piecesOf : Nat → List Char → List Piece
  | 0, _ => []
  | _, [] => []
  | fuel + 1, '\\' :: rest =>
    match escapeAt rest with
    | some (c, left) => .char c :: piecesOf fuel left
    | none =>
      match rest with
      | [] => [.char '\\']
      | c :: left =>
        let piece : Piece :=
          if c.isDigit then .group (c.toNat - 48)
          else
            match c with
            | 'n' => .char '\n'
            | 'U' => .all .upper
            | 'L' => .all .lower
            | 'E' => .all .kept
            | 'u' => .next .upper
            | 'l' => .next .lower
            | c => .char c
        piece :: piecesOf fuel left
  | fuel + 1, c :: rest => (if c = '&' then .group 0 else .char c) :: piecesOf fuel rest

/-- The marks behind a replacement. -/
structure Marks where
  /-- The letters. -/
  letters : List Char
  /-- The number. -/
  number : Option Nat
  /-- The file. -/
  file : Option String

/-- Reads the marks behind a replacement; `fuel` bounds their number. -/
def marks : Nat → Marks → Parse Marks
  | 0, m => return m
  | fuel + 1, m => do
    match ← peek with
    | none => return m
    | some c =>
      if c.isDigit then
        let n ← number
        if n = 0 then
          fail "number option to `s' command may not be zero"
        if m.number.isSome then
          fail "multiple number options to `s' command"
        marks fuel { m with number := some n }
      else if c = '\x7d' || c = '#' then return m
      else
        let _ ← take
        if c = '\n' || c = ';' then return m
        else if c = 'w' then return { m with file := some (← fileName) }
        else if (c = 'p' || c = 'g') && m.letters.contains c then
          fail ("multiple `" ++ String.singleton c ++ "' options to `s' command")
        else if "pgiIemM".toList.contains c then
          marks fuel { m with letters := c :: m.letters }
        else if isSpace c then marks fuel m
        else fail "unknown option to `s'"

/-- Reads a command that replaces matches. -/
def substitution (extended : Bool) : Parse Action := do
  let unterminated := "unterminated `s' command"
  match ← take with
  | none => fail unterminated
  | some mark =>
    if mark = '\n' || mark = '\\' then fail unterminated
    let text ← textUpTo mark true unterminated
    let replacement ← textUpTo mark false unterminated
    let m ← marks ((← get).length + 1) ⟨[], none, none⟩
    let has (c : Char) : Bool := m.letters.contains c
    let search ← searchOf extended ⟨has 'i' || has 'I', has 'm' || has 'M'⟩ text
    let pieces := piecesOf replacement.length replacement
    let most := pieces.foldl (fun n piece => match piece with | .group k => max n k | _ => n) 0
    match search with
    | some (r, _) =>
      if r.groups < most then
        fail ("invalid reference \\" ++ toString most ++ " on `s' command's RHS")
    | none => pure ()
    return .substitute ⟨search, pieces, m.number.getD 1, has 'g', has 'p', m.file⟩

/-- The characters of a list of characters that replace one another. -/
def listed : List Char → List Char
  | '\\' :: 'n' :: rest => '\n' :: listed rest
  | '\\' :: '\\' :: rest => '\\' :: listed rest
  | '\\' :: 't' :: rest => '\t' :: listed rest
  | c :: rest => c :: listed rest
  | [] => []

/-- Reads a command that puts characters in the place of others. -/
def replacements : Parse Action := do
  let unterminated := "unterminated `y' command"
  match ← take with
  | none => fail unterminated
  | some mark =>
    let first := listed (← textUpTo mark false unterminated)
    let second := listed (← textUpTo mark false unterminated)
    if first.length ≠ second.length then
      fail "strings for `y' command are different lengths"
    endOfCommand
    return .replaceEach (first.zip second)

/-- The commands that are only a letter. -/
def letterActions : List (Char × Action) :=
  [('=', .number), ('d', .delete), ('D', .deleteFirst), ('F', .fileName), ('g', .fetch),
    ('G', .fetchMore), ('h', .store), ('H', .storeMore), ('n', .next), ('N', .nextMore),
    ('p', .print), ('P', .printFirst), ('x', .exchange), ('z', .empty)]

/-- Reads what stands behind the letter of a command. -/
def draftOf (extended : Bool) (s : Scope) (inverted : Bool) (c : Char) : Parse Draft := do
  let done (a : Action) : Draft := .done ⟨s, inverted, a⟩
  let isRange :=
    match s with
    | .range _ _ | .fromStart _ => true
    | _ => false
  let isAll :=
    match s with
    | .all => true
    | _ => false
  match letterActions.lookup c with
  | some a =>
    endOfCommand
    return done a
  | none =>
    match c with
    | '\x7b' => return .opening s inverted
    | '\x7d' =>
      if !isAll then fail "\x7d doesn't want any addresses"
      endOfCommand
      return .closing
    | 'a' => return done (.append (← ownText))
    | 'i' => return done (.insert (← ownText))
    | 'c' => return done (.change (← ownText))
    | ':' =>
      if !isAll then fail ": doesn't want any addresses"
      let name ← labelName true
      if name.isEmpty then fail "\":\" lacks a label"
      endOfCommand
      return .label name
    | 'b' | 't' | 'T' =>
      let name ← labelName true
      endOfCommand
      let kind : Nat → Action := if c = 'b' then .jump else if c = 't' then .jumpIf else .jumpUnless
      return .jump s inverted kind name
    | 'q' | 'Q' =>
      if isRange then fail "command only uses one address"
      skipBlanks
      let n ← number
      endOfCommand
      return done (if c = 'q' then .quit n else .leave n)
    | 'l' =>
      skipBlanks
      let digits ← takeWhile Char.isDigit
      endOfCommand
      return done (.show (plainNumber? digits))
    | 'r' => return done (.readFile (← fileName))
    | 'R' => return done (.readLine (← fileName))
    | 'w' => return done (.writeFile (← fileName))
    | 'W' => return done (.writeFirst (← fileName))
    | 's' => return done (← substitution extended)
    | 'y' => return done (← replacements)
    | 'v' =>
      let _ ← labelName true
      endOfCommand
      return done .none
    | c => fail ("unknown command: `" ++ String.singleton c ++ "'")

/-- Reads commands; `depth` is the number of open blocks, and `fuel` bounds the number of commands.
-/
def drafts (extended : Bool) : Nat → Nat → Parse (List Draft)
  | 0, _ => return []
  | fuel + 1, depth => do
    let _ ← takeWhile fun c => isSpace c || c = ';'
    if (← get).isEmpty then
      if 0 < depth then throw ⟨none, "unmatched `\x7b'", true⟩
      return []
    if (← peek) = some '#' then
      let _ ← takeWhile (· ≠ '\n')
      return ← drafts extended fuel depth
    let s ← scope extended
    skipBlanks
    let signs ← takeWhile fun c => c = '!' || isSpace c
    match ← take with
    | none => fail "missing command"
    | some c =>
      if s.isZero then fail "invalid usage of line address 0"
      if c = '#' then fail "comments don't accept any addresses"
      let d ← draftOf extended s (signs.contains '!') c
      let depth ←
        match d with
        | .opening _ _ => pure (depth + 1)
        | .closing => if depth = 0 then fail "unexpected `\x7d'" else pure (depth - 1)
        | _ => pure depth
      return d :: (← drafts extended fuel depth)

/-! ### Targets -/

/-- The number of the command that ends the block that is open; `depth` counts blocks inside it. -/
def blockEnd : Nat → Nat → List Draft → Nat
  | n, _, [] => n
  | n, depth, .opening _ _ :: rest => blockEnd (n + 1) (depth + 1) rest
  | n, 0, .closing :: _ => n
  | n, depth + 1, .closing :: rest => blockEnd (n + 1) depth rest
  | n, depth, _ :: rest => blockEnd (n + 1) depth rest

/-- The command of a draft, where `all` is the whole script and `number` its place in it. -/
def Draft.command (all : List Draft) (number : Nat) : Draft → Except Fault Command
  | .done c => .ok c
  | .label _ | .closing => .ok ⟨.all, false, .none⟩
  | .opening s inverted =>
    .ok ⟨s, inverted, .block (blockEnd (number + 1) 0 (all.drop (number + 1)))⟩
  | .jump s inverted kind name =>
    if name.isEmpty then .ok ⟨s, inverted, kind all.length⟩
    else
      match all.findIdx? fun d => match d with | .label n => n = name | _ => false with
      | some target => .ok ⟨s, inverted, kind target⟩
      | none => .error ⟨none, "can't find label for jump to `" ++ name ++ "'", false⟩

/-- Reads a script. -/
def read (extended : Bool) (text : List Char) : Except Fault (Array Command) := do
  let (all, _) ← (drafts extended (text.length + 1) 0).run text
  let commands ← (all.mapIdx fun i d => (i, d)).mapM fun (i, d) => d.command all i
  return commands.toArray

end WidgetForge.Editing
