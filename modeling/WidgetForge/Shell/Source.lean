import WidgetForge.Shell.Script

/-!
# Reading a script character by character

The text of a script is read from the left. A line end behind a backslash joins two lines where
nothing is quoted, and the lines of a text that is there to be read by a command are taken out as
soon as it is announced, from behind the line that announces it.
-/

namespace WidgetForge.Shell

/-- A token of a script. -/
inductive Token where
  /-- A word. -/
  | word (w : Word)
  /-- A mark between words. -/
  | mark (s : String)
  /-- A line end. -/
  | newline
  /-- A redirection, with its file. -/
  | redirection (r : Redirection)
  /-- The end of the script. -/
  | ending

/-- What is left of a script. -/
structure Source where
  /-- The characters that have not been read. -/
  rest : List Char
  /-- The number of the line. -/
  line : Nat
  /-- How many lines behind this one have been taken out. -/
  skipped : Nat
  /-- A token that has been read and given back. -/
  pushed : Option Token

/-- What reads a script. -/
abbrev Reader := StateT Source (Except Refusal)

/-- The source of a text. -/
def Source.ofText (text : List Char) (line : Nat) : Source := ⟨text, line, 0, none⟩

namespace Reader

/-- Refuses the script. -/
def refuse {α : Type} (reason : String) : Reader α := do throw ⟨(← get).line, reason⟩

/-- The next character. -/
def peek : Reader (Option Char) := return (← get).rest.head?

/-- Passes over a character. -/
def advance : Reader Unit :=
  modify fun s =>
    match s.rest with
    | [] => s
    | c :: rest =>
      if c = '\n' then { s with rest := rest, line := s.line + 1 + s.skipped, skipped := 0 }
      else { s with rest := rest }

/-- Takes off backslashes with line ends behind them, and counts them. -/
def dropJoins : Nat → List Char → Nat × List Char
  | n, '\\' :: '\n' :: rest => dropJoins (n + 1) rest
  | n, cs => (n, cs)

/-- The next character where lines may be joined. -/
def peekJoined : Reader (Option Char) := do
  modify fun s =>
    let (n, rest) := dropJoins 0 s.rest
    { s with rest := rest, line := s.line + n }
  peek

/-- Takes off blanks, joined lines and a comment. -/
def dropBlanks : Nat → List Char → Nat × List Char
  | n, ' ' :: rest => dropBlanks n rest
  | n, '\t' :: rest => dropBlanks n rest
  | n, '\\' :: '\n' :: rest => dropBlanks (n + 1) rest
  | n, '#' :: rest => (n, rest.dropWhile (· ≠ '\n'))
  | n, cs => (n, cs)

/-- Passes over blanks. -/
def skipBlanks : Reader Unit :=
  modify fun s =>
    let (n, rest) := dropBlanks 0 s.rest
    { s with rest := rest, line := s.line + n }

/-- Takes the characters up to one that does not fit. -/
def takeWhile (fits : Char → Bool) : Reader String := do
  let s ← get
  set { s with rest := s.rest.dropWhile fits }
  return String.ofList (s.rest.takeWhile fits)

/-- Takes the characters up to a mark, and the mark. -/
def takeTo (mark : Char) (reason : String) : Reader String := do
  let s ← get
  let taken := s.rest.takeWhile (· ≠ mark)
  match s.rest.drop taken.length with
  | [] => refuse reason
  | _ :: rest =>
    set { s with rest := rest, line := s.line + taken.count '\n' }
    return String.ofList taken

/-- Gives a token back. -/
def push (t : Token) : Reader Unit := modify fun s => { s with pushed := some t }

end Reader

/-! ### Words and names -/

/-- Whether a character may stand in a name. -/
def isNameChar (c : Char) : Bool := c.isAlphanum || c = '_'

/-- Whether a text is a name. -/
def isName (s : String) : Bool :=
  match s.toList with
  | [] => false
  | c :: rest => !c.isDigit && isNameChar c && rest.all isNameChar

/-- Joins neighbouring texts of one kind. -/
def joinTexts : List Part → List Part
  | .text a p :: rest =>
    match joinTexts rest with
    | .text b q :: more =>
      if p = q then .text (a ++ b) p :: more else .text a p :: .text b q :: more
    | more => .text a p :: more
  | part :: rest => part :: joinTexts rest
  | [] => []

/-- The words that mean something at the start of a command. -/
def keywords : List String :=
  ["!", "case", "do", "done", "elif", "else", "esac", "fi", "for", "if", "in", "then", "until",
    "while", "\x7b", "\x7d"]

/-- The words and marks that end a list of commands. -/
def closing : List String :=
  [")", ";;", "do", "done", "elif", "else", "esac", "fi", "then", "\x7d"]

namespace Token

/-- The keyword that a token is. -/
def keyword? : Token → Option String
  | .word w => w.plain?.bind fun s => if keywords.contains s then some s else none
  | _ => none

/-- Whether a token ends a list of commands. -/
def closes : Token → Bool
  | .ending => true
  | .mark s => closing.contains s
  | t => t.keyword?.any closing.contains

/-- What a token is called in a complaint. -/
def description (t : Token) : String :=
  match t.keyword? with
  | some s => "\"" ++ s ++ "\""
  | none =>
    match t with
    | .word _ => "word"
    | .mark s => "\"" ++ s ++ "\""
    | .newline => "newline"
    | .redirection _ => "redirection"
    | .ending => "end of file"

end Token

/-- Refuses a token. -/
def Reader.unexpected {α : Type} (t : Token) (wanted : Option String) : Reader α :=
  Reader.refuse (t.description ++ " unexpected" ++
    wanted.elim "" fun s => " (expecting \"" ++ s ++ "\")")

end WidgetForge.Shell
