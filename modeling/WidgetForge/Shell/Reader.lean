import WidgetForge.Shell.Source

/-!
# Reading commands

A word is read piece by piece, and commands are read by their grammar, one list at a time: a line at
the outermost level, and inside a command up to the word that closes it. Every reader takes a number
that bounds how deep it may go; the length of the script bounds what is needed.
-/

namespace WidgetForge.Shell

open Reader

/-- Where a piece of a word stands. -/
inductive Style where
  /-- Outside quotes. -/
  | plain
  /-- Between double quotes. -/
  | double
  /-- Between the braces of a parameter, inside double quotes or outside. -/
  | brace (quoted : Bool)
  /-- In a text that is there to be read. -/
  | here
  /-- In an arithmetic expression. -/
  | sum

namespace Style

/-- Whether what is read is quoted. -/
def quoted : Style → Bool
  | .plain => false
  | .brace quoted => quoted
  | _ => true

/-- Whether quotes are quotes. -/
def quotes : Style → Bool
  | .plain | .brace _ => true
  | _ => false

/-- Whether a character is the end. -/
def stops (c : Char) : Style → Bool
  | .plain => " \t\n;&|<>()".toList.contains c
  | .double => c = '"'
  | .brace _ => c = '\x7d'
  | .here => false
  | .sum => c = ')'

/-- Whether a backslash takes the meaning from a character. -/
def escapes (c : Char) : Style → Bool
  | .plain => true
  | .double => "$\"\\".toList.contains c || c = Char.ofNat 96
  | .brace quoted => !quoted || "$\"\\\x7d".toList.contains c || c = Char.ofNat 96
  | .here | .sum => "$\\".toList.contains c || c = Char.ofNat 96

end Style

/-- The grave accent. -/
def graveAccent : Char := Char.ofNat 96

/-- How lists of commands may end. -/
inductive Extent where
  /-- With the line. -/
  | line
  /-- With a closing word, behind at least one command. -/
  | filled
  /-- With a closing word. -/
  | open
  deriving DecidableEq

/-- The command between grave accents: backslashes take their meaning from these, from dollar signs
and from backslashes. -/
def unescapeGrave (quoted : Bool) : List Char → List Char
  | '\\' :: c :: rest =>
    if c = '\\' || c = '$' || c = graveAccent || (quoted && c = '"') then
      c :: unescapeGrave quoted rest
    else '\\' :: c :: unescapeGrave quoted rest
  | c :: rest => c :: unescapeGrave quoted rest
  | [] => []

/-- How many characters stand before the next grave accent that is not escaped. -/
def graveLength : List Char → Nat → Option Nat
  | '\\' :: _ :: rest, n => graveLength rest (n + 2)
  | c :: rest, n => if c = graveAccent then some n else graveLength rest (n + 1)
  | [], _ => none

/-- Takes lines up to one that is the end: the text, how many lines it takes, and what is left. -/
def takeHere (strip : Bool) (mark : List Char) :
    List (List Char) → List Char × Nat × List (List Char)
  | [] => ([], 0, [])
  | line :: rest =>
    let shown := if strip then line.dropWhile (· = '\t') else line
    if shown = mark then ([], 1, rest)
    else if rest.isEmpty && shown.isEmpty then ([], 1, [])
    else
      let (text, n, left) := takeHere strip mark rest
      (shown ++ '\n' :: text, n + 1, left)

/-- The lines of a text. -/
def linesOf : List Char → List (List Char)
  | [] => [[]]
  | c :: rest =>
    if c = '\n' then [] :: linesOf rest
    else
      match linesOf rest with
      | [] => [[c]]
      | line :: lines => (c :: line) :: lines

/-- Takes a text that is there to be read out of the lines behind this one. -/
def takeHereText (strip : Bool) (mark : String) : Reader String := do
  let s ← get
  let now := s.rest.takeWhile (· ≠ '\n')
  match s.rest.drop now.length with
  | [] => return ""
  | _ :: later =>
    let (text, n, left) := takeHere strip mark.toList (linesOf later)
    let behind := List.intercalate ['\n'] left
    set { s with rest := now ++ '\n' :: behind, skipped := s.skipped + n }
    return String.ofList text

/-- The descriptor that a word names. -/
def descriptorOf (w : Word) : Option Nat :=
  match w.plain?.map String.toList with
  | some [c] => if c.isDigit then some (c.toNat - 48) else none
  | _ => none

/-- The text of a word as it was written, and whether any of it is quoted. -/
def literalOf (w : Word) : String × Bool :=
  w.foldl (fun (text, quoted) part =>
    match part with
    | .text s q => (text ++ s, quoted || q)
    | .parameter name _ q => (text ++ "$" ++ name, quoted || q)
    | _ => (text, quoted)) ("", false)

/-- The name and the value of an assignment. -/
def assignmentOf : Word → Option (String × Word)
  | .text s false :: rest =>
    let name := String.ofList (s.toList.takeWhile isNameChar)
    match s.toList.drop name.length with
    | '=' :: value =>
      if isName name then
        some (name, if value.isEmpty then rest else .text (String.ofList value) false :: rest)
      else none
    | _ => none
  | _ => none

/-- The commands that the shell treats before all others; no function can have their names. -/
def specialNames : List String :=
  [".", ":", "break", "continue", "eval", "exec", "exit", "export", "local", "readonly", "return",
    "set", "shift", "times", "trap", "unset"]

/-- Both commands, one after the other. -/
def Command.thenRun : Command → Command → Command
  | .nothing, b => b
  | a, b => .sequence a b

namespace Reader

mutual

/-- Reads the pieces of a word; `depth` parentheses are open. -/
def parts : Nat → Style → Nat → Reader (List Part)
  | 0, _, _ => return []
  | n + 1, style, depth => do
    match ← peek with
    | none => return []
    | some c =>
      if style.stops c && depth = 0 then return []
      let depth :=
        match style with
        | .sum => if c = '(' then depth + 1 else if c = ')' then depth - 1 else depth
        | _ => depth
      let first ← part n style c
      return first ++ (← parts n style depth)

/-- Reads a piece of a word that begins with a character. -/
def part : Nat → Style → Char → Reader (List Part)
  | 0, _, _ => return []
  | n + 1, style, c => do
    advance
    if c = '\\' then
      match ← peek with
      | none => return [.text "\\" true]
      | some d =>
        advance
        if d = '\n' then return []
        else if style.escapes d then return [.text (String.singleton d) true]
        else return [.text (String.ofList ['\\', d]) true]
    else if c = '\'' && style.quotes && !style.quoted then
      return [.text (← takeTo '\'' "Unterminated quoted string") true]
    else if c = '"' && style.quotes then
      let inner ← parts n .double 0
      match ← peek with
      | none => refuse "Unterminated quoted string"
      | some _ =>
        advance
        return if inner.isEmpty then [.text "" true] else inner
    else if c = '$' then dollar n style.quoted
    else if c = graveAccent then
      let s ← get
      match graveLength s.rest 0 with
      | none => refuse "EOF in backquote substitution"
      | some length =>
        let text := unescapeGrave style.quoted (s.rest.take length)
        set { s with rest := s.rest.drop (length + 1) }
        match (lines n .nothing).run (Source.ofText text s.line) with
        | .error e => throw e
        | .ok (body, _) => return [.output body style.quoted]
    else return [.text (String.singleton c) style.quoted]

/-- Reads what a dollar sign begins. -/
def dollar : Nat → Bool → Reader (List Part)
  | 0, _ => return []
  | n + 1, quoted => do
    match ← peekJoined with
    | none => return [.text "$" quoted]
    | some c =>
      if c = '(' then
        advance
        if (← peekJoined) = some '(' then
          advance
          return [.arithmetic (joinTexts (← sum n)) quoted]
        else
          let body ← list n .open
          match ← token n with
          | .mark ")" => return [.output body quoted]
          | t => unexpected t (some ")")
      else if c = '\x7b' then
        advance
        braced n quoted
      else if c.isAlpha || c = '_' then
        return [.parameter (← takeWhile isNameChar) .none quoted]
      else if c.isDigit || "@*#?$!-".toList.contains c then
        advance
        return [.parameter (String.singleton c) .none quoted]
      else return [.text "$" quoted]

/-- Reads an arithmetic expression to its end. -/
def sum : Nat → Reader (List Part)
  | 0 => return []
  | n + 1 => do
    let before ← parts n .sum 0
    match ← peek with
    | none => refuse "Missing '))'"
    | some _ =>
      advance
      if (← peekJoined) = some ')' then
        advance
        return before
      else return before ++ .text ")" true :: (← sum n)

/-- Reads a parameter between braces. -/
def braced : Nat → Bool → Reader (List Part)
  | 0, _ => return []
  | n + 1, quoted => do
    let s ← get
    match s.rest with
    | '#' :: c :: rest =>
      if isNameChar c then
        advance
        let name ← takeWhile (if c.isDigit then Char.isDigit else isNameChar)
        changed n quoted name (some .length)
      else if c ≠ '\x7d' && rest.head? = some '\x7d' then
        advance
        advance
        changed n quoted (String.singleton c)
          (some (if "@*#?$!-".toList.contains c then .length else .bad))
      else
        advance
        changed n quoted "#" none
    | c :: _ =>
      if c.isDigit then changed n quoted (← takeWhile Char.isDigit) none
      else if isNameChar c then changed n quoted (← takeWhile isNameChar) none
      else if "@*?$!-".toList.contains c then
        advance
        changed n quoted (String.singleton c) none
      else changed n quoted "" (some .bad)
    | [] => refuse "Missing '\x7d'"

/-- Reads what is to be done with the value of a parameter. -/
def changed : Nat → Bool → String → Option Change → Reader (List Part)
  | 0, _, _, _ => return []
  | n + 1, quoted, name, known => do
    let word (inner : Bool) (change : Word → Change) : Reader (List Part) := do
      let w ← parts n (.brace inner) 0
      match ← peek with
      | none => refuse "Missing '\x7d'"
      | some _ =>
        advance
        return [.parameter name (change (joinTexts w)) quoted]
    let ruled (empty : Bool) (c : Char) : Reader (List Part) := do
      match c with
      | '-' => advance; word quoted (.default empty)
      | '=' => advance; word quoted (.assign empty)
      | '?' => advance; word quoted (.require empty)
      | '+' => advance; word quoted (.instead empty)
      | _ => word quoted fun _ => .bad
    let cut (c : Char) (change : Bool → Word → Change) : Reader (List Part) := do
      advance
      if (← peekJoined) = some c then
        advance
        word false (change true)
      else word false (change false)
    match known with
    | some change =>
      if (← peek) = some '\x7d' then
        advance
        return [.parameter name change quoted]
      else word quoted fun _ => .bad
    | none =>
      match ← peekJoined with
      | none => refuse "Missing '\x7d'"
      | some '\x7d' =>
        advance
        return [.parameter name .none quoted]
      | some ':' =>
        advance
        match ← peekJoined with
        | none => refuse "Missing '\x7d'"
        | some c => ruled true c
      | some '%' => cut '%' .dropEnd
      | some '#' => cut '#' .dropStart
      | some c => ruled false c

/-- Reads a token. -/
def token : Nat → Reader Token
  | 0 => return .ending
  | n + 1 => do
    let s ← get
    match s.pushed with
    | some t =>
      set { s with pushed := none }
      return t
    | none =>
      skipBlanks
      let doubled (c : Char) : Reader Token := do
        advance
        if (← peekJoined) = some c then
          advance
          return .mark (String.ofList [c, c])
        else return .mark (String.singleton c)
      match ← peek with
      | none => return .ending
      | some '\n' => advance; return .newline
      | some '&' => doubled '&'
      | some '|' => doubled '|'
      | some ';' => doubled ';'
      | some '(' => advance; return .mark "("
      | some ')' => advance; return .mark ")"
      | some '<' => redirection n none
      | some '>' => redirection n none
      | some _ =>
        let w := joinTexts (← parts n .plain 0)
        match descriptorOf w, ← peek with
        | some d, some '<' => redirection n (some d)
        | some d, some '>' => redirection n (some d)
        | _, _ => return .word w

/-- Reads a redirection of a descriptor. -/
def redirection : Nat → Option Nat → Reader Token
  | 0, _ => return .ending
  | n + 1, descriptor => do
    let file : Reader Word := do
      match ← token n with
      | .word w => return w
      | t => unexpected t none
    let input := descriptor.getD 0
    let output := descriptor.getD 1
    let c ← peek
    advance
    let d ← peekJoined
    if c = some '<' then
      match d with
      | some '<' =>
        advance
        let strip := (← peekJoined) = some '-'
        if strip then advance
        let (mark, quoted) := literalOf (← file)
        let text ← takeHereText strip mark
        if quoted then return .redirection (.here input [.text text true])
        else
          match (parts n .here 0).run (Source.ofText text.toList (← get).line) with
          | .error e => throw e
          | .ok (all, _) => return .redirection (.here input (joinTexts all))
      | some '&' => advance; return .redirection (.same input (← file))
      | some '>' => advance; return .redirection (.update input (← file))
      | _ => return .redirection (.read input (← file))
    else
      match d with
      | some '>' => advance; return .redirection (.append output (← file))
      | some '&' => advance; return .redirection (.same output (← file))
      | some '|' => advance; return .redirection (.write output (← file) true)
      | _ => return .redirection (.write output (← file) false)

/-- Reads a token behind line ends. -/
def tokenBehindLines : Nat → Reader Token
  | 0 => return .ending
  | n + 1 => do
    match ← token n with
    | .newline => tokenBehindLines n
    | t => return t

/-- Reads a list of commands. -/
def list : Nat → Extent → Reader Command
  | 0, _ => return .nothing
  | n + 1, extent => items n extent (extent = .open) .nothing

/-- Reads the rest of a list of commands; it may be over if `closable`. -/
def items : Nat → Extent → Bool → Command → Reader Command
  | 0, _, _, before => return before
  | n + 1, extent, closable, before => do
    match ← if extent = .line then token n else tokenBehindLines n with
    | .newline => return before
    | .ending =>
      push .ending
      return before
    | t =>
      push t
      if closable && t.closes then return before
      let c ← chain n
      let t ← token n
      let more := fun c => items n extent (extent ≠ .line) (before.thenRun c)
      match t with
      | .mark "&" => more (.background c)
      | .mark ";" => more c
      | .newline =>
        push t
        more c
      | .ending =>
        push t
        return before.thenRun c
      | t =>
        if extent = .line then unexpected t none
        push t
        return before.thenRun c

/-- Reads commands that depend on each other's success. -/
def chain : Nat → Reader Command
  | 0 => return .nothing
  | n + 1 => do chainRest n (← pipeline n)

/-- Reads what depends on the success of a command. -/
def chainRest : Nat → Command → Reader Command
  | 0, before => return before
  | n + 1, before => do
    match ← token n with
    | .mark "&&" =>
      push (← tokenBehindLines n)
      chainRest n (.both before (← pipeline n))
    | .mark "||" =>
      push (← tokenBehindLines n)
      chainRest n (.either before (← pipeline n))
    | t =>
      push t
      return before

/-- Reads commands that are joined by pipes. -/
def pipeline : Nat → Reader Command
  | 0 => return .nothing
  | n + 1 => do
    let t ← token n
    if t.keyword? = some "!" then return .negation (← stages n)
    push t
    stages n

/-- Reads the stages of a pipeline. -/
def stages : Nat → Reader Command
  | 0 => return .nothing
  | n + 1 => do
    let first ← command n
    match ← stagesRest n with
    | [] => return first
    | more => return .pipe (first :: more)

/-- Reads the stages behind the first. -/
def stagesRest : Nat → Reader (List Command)
  | 0 => return []
  | n + 1 => do
    match ← token n with
    | .mark "|" =>
      push (← tokenBehindLines n)
      let c ← command n
      return c :: (← stagesRest n)
    | t =>
      push t
      return []

/-- Reads the word that closes a command. -/
def close : Nat → String → Reader Unit
  | 0, _ => return ()
  | n + 1, wanted => do
    match ← token n with
    | .mark s => if s = wanted then return () else unexpected (.mark s) (some wanted)
    | t => if t.keyword? = some wanted then return () else unexpected t (some wanted)

/-- Reads a command. -/
def command : Nat → Reader Command
  | 0 => return .nothing
  | n + 1 => do
    let t ← token n
    let line := (← get).line
    let ended (wanted : String) (c : Command) : Reader Command := do
      close n wanted
      trailing n line c
    match t with
    | .mark "(" =>
      let body ← list n .filled
      ended ")" (.subshell body)
    | .redirection _ =>
      push t
      simple n line [] [] []
    | .word _ =>
      match t.keyword? with
      | none =>
        push t
        simple n line [] [] []
      | some "if" =>
        let c ← branches n
        trailing n line c
      | some "while" =>
        let condition ← list n .filled
        close n "do"
        ended "done" (.loop false condition (← list n .filled))
      | some "until" =>
        let condition ← list n .filled
        close n "do"
        ended "done" (.loop true condition (← list n .filled))
      | some "for" =>
        let (name, words) ← forHead n
        let t ← tokenBehindLines n
        if t.keyword? ≠ some "do" then unexpected t (some "do")
        ended "done" (.each line name words (← list n .filled))
      | some "case" =>
        match ← token n with
        | .word w =>
          let t ← tokenBehindLines n
          if t.keyword? ≠ some "in" then unexpected t (some "in")
          trailing n line (.choose line w (← clauses n))
        | t => refuse (t.description ++ " unexpected (expecting word)")
      | some "\x7b" => ended "\x7d" (← list n .filled)
      | some _ => unexpected t none
    | t => unexpected t none

/-- Reads the redirections behind a command. -/
def trailing : Nat → Nat → Command → Reader Command
  | 0, _, c => return c
  | n + 1, line, c => do
    match ← redirections n with
    | [] => return c
    | all => return .redirected line c all

/-- Reads redirections. -/
def redirections : Nat → Reader (List Redirection)
  | 0 => return []
  | n + 1 => do
    match ← token n with
    | .redirection r => return r :: (← redirections n)
    | t =>
      push t
      return []

/-- Reads a condition and what depends on it, up to the closing word. -/
def branches : Nat → Reader Command
  | 0 => return .nothing
  | n + 1 => do
    let condition ← list n .filled
    close n "then"
    let yes ← list n .filled
    let t ← token n
    match t.keyword? with
    | some "elif" => return .branch condition yes (← branches n)
    | some "else" =>
      let no ← list n .filled
      close n "fi"
      return .branch condition yes no
    | some "fi" => return .branch condition yes .nothing
    | _ => unexpected t (some "fi")

/-- Reads the name and the words of a command for each word. -/
def forHead : Nat → Reader (String × Option (List Word))
  | 0 => return ("", none)
  | n + 1 => do
    match ← token n with
    | .word w =>
      match w.plain? with
      | none => refuse "Bad for loop variable"
      | some name =>
        if !isName name then refuse "Bad for loop variable"
        let t ← tokenBehindLines n
        if t.keyword? = some "in" then
          let words ← wordsOf n
          match ← token n with
          | .newline => return (name, some words)
          | .mark ";" => return (name, some words)
          | t => unexpected t none
        else
          match t with
          | .mark ";" => return (name, none)
          | t =>
            push t
            return (name, none)
    | _ => refuse "Bad for loop variable"

/-- Reads words. -/
def wordsOf : Nat → Reader (List Word)
  | 0 => return []
  | n + 1 => do
    match ← token n with
    | .word w => return w :: (← wordsOf n)
    | t =>
      push t
      return []

/-- Reads the clauses of a choice, and the closing word. -/
def clauses : Nat → Reader (List (List Word × Command))
  | 0 => return []
  | n + 1 => do
    let t ← tokenBehindLines n
    if t.keyword? = some "esac" then return []
    let t ←
      match t with
      | .mark "(" => token n
      | t => pure t
    let patterns ← patternsFrom n t
    let body ← list n .open
    let t ← tokenBehindLines n
    if t.keyword? = some "esac" then return [(patterns, body)]
    match t with
    | .mark ";;" => return (patterns, body) :: (← clauses n)
    | t => unexpected t (some ";;")

/-- Reads patterns and the parenthesis behind them; the first begins with a token. -/
def patternsFrom : Nat → Token → Reader (List Word)
  | 0, _ => return []
  | n + 1, t => do
    let w : Word :=
      match t with
      | .word w => w
      | _ => []
    let u ←
      match t with
      | .ending => pure t
      | _ => token n
    match u with
    | .mark "|" =>
      let t ← token n
      return w :: (← patternsFrom n t)
    | .mark ")" => return [w]
    | t => unexpected t (some ")")

/-- Reads a simple command, of which this has been read; a function is one too, so far. -/
def simple : Nat → Nat → List (String × Word) → List Word → List Redirection → Reader Command
  | 0, _, _, _, _ => return .nothing
  | n + 1, line, assignments, words, redirections => do
    let t ← token n
    match t with
    | .word w =>
      match if words.isEmpty then assignmentOf w else none with
      | some a => simple n line (assignments ++ [a]) words redirections
      | none => simple n line assignments (words ++ [w]) redirections
    | .redirection r => simple n line assignments words (redirections ++ [r])
    | .mark "(" =>
      match assignments, words, redirections with
      | [], [w], [] =>
        match ← token n with
        | .mark ")" =>
          let name := (w.plain?).getD ""
          if !isName name || specialNames.contains name then refuse "Bad function name"
          push (← tokenBehindLines n)
          return .define name (← command n)
        | t => unexpected t (some ")")
      | _, _, _ =>
        push t
        return .simple line assignments words redirections
    | t =>
      push t
      return .simple line assignments words redirections

/-- Reads all lines that are left, behind a command. -/
def lines : Nat → Command → Reader Command
  | 0, before => return before
  | n + 1, before => do
    let c ← list n .line
    match (← get).pushed with
    | some .ending => return before.thenRun c
    | _ => lines n (before.thenRun c)

end

end Reader

/-- How deep readers may go in a text. -/
def depthFor (text : List Char) : Nat := 24 * text.length + 100

/-- Reads the commands of the next line, if anything is left. -/
def readLine (s : Source) : Except Refusal (Option (Command × Source)) :=
  match s.pushed with
  | some .ending => .ok none
  | _ => ((Reader.list (depthFor s.rest) .line).run s).map some

end WidgetForge.Shell
