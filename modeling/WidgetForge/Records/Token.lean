import WidgetForge.Utility.Escape
import WidgetForge.Utility.Lines

/-!
# Tokens of scripts on records

A slash begins a regular expression where a value is expected, and divides where one has just ended.
Lines end statements, so their ends are tokens too.
-/

namespace WidgetForge.Records

open Utility

/-- A token. -/
inductive Token where
  /-- A number. -/
  | number (text : String)
  /-- A text. -/
  | text (s : String)
  /-- A regular expression. -/
  | regex (s : String)
  /-- A name with a parenthesis right behind it. -/
  | function (name : String)
  /-- A name. -/
  | name (s : String)
  /-- A word with a meaning. -/
  | word (s : String)
  /-- A function that is always there. -/
  | builtin (s : String)
  /-- A sign. -/
  | sign (s : String)
  /-- The end of a line. -/
  | newline
  deriving DecidableEq

/-- A token with the number of its line. -/
abbrev Placed := Token × Nat

/-- The words with a meaning. -/
def words : List String :=
  ["BEGIN", "END", "function", "if", "else", "while", "for", "do", "break", "continue", "next",
    "nextfile", "exit", "return", "delete", "in", "getline", "print", "printf"]

/-- The functions that are always there. -/
def builtins : List String :=
  ["length", "substr", "index", "split", "sub", "gsub", "match", "sprintf", "sin", "cos", "atan2",
    "exp", "log", "sqrt", "int", "rand", "srand", "tolower", "toupper", "system", "close", "fflush"]

/-- The signs, the longest first. -/
def signs : List String :=
  [">>", "<=", ">=", "==", "!=", "!~", "++", "--", "+=", "-=", "*=", "/=", "%=", "^=", "&&", "||",
    "\x7b", "\x7d", "(", ")", "[", "]", ";", ",", "+", "-", "*", "/", "%", "^", "!", "<", ">", "|",
    "?", ":", "~", "$", "="]

/-- Whether a slash behind a token divides. -/
def Token.endsValue : Token → Bool
  | .number _ | .text _ | .regex _ | .name _ | .builtin _ => true
  | .sign s => s = ")" || s = "]" || s = "$" || s = "++" || s = "--"
  | _ => false

/-- Reads a text up to its closing quote: what it stands for, and what is left. -/
def textAt : Nat → List Char → Option (List Char × List Char)
  | 0, _ => none
  | _, [] => none
  | fuel + 1, c :: rest =>
    if c = '"' then some ([], rest)
    else if c = '\n' then none
    else if c = '\\' then
      match rest with
      | [] => none
      | '\n' :: left => textAt fuel left
      | '"' :: left => (textAt fuel left).map fun (cs, left) => ('"' :: cs, left)
      | '/' :: left => (textAt fuel left).map fun (cs, left) => ('\\' :: '/' :: cs, left)
      | _ =>
        let known : Escapes := ⟨true, true, false, true, false⟩
        match known.read rest with
        | (some cs, left) => (textAt fuel left).map fun (more, left) => (cs ++ more, left)
        | (none, _) => none
    else (textAt fuel rest).map fun (cs, left) => (c :: cs, left)

/-- Reads a regular expression up to its closing slash. -/
def regexAt : Nat → List Char → Option (List Char × List Char)
  | 0, _ => none
  | _, [] => none
  | fuel + 1, c :: rest =>
    if c = '/' then some ([], rest)
    else if c = '\n' then none
    else
      match c, rest with
      | '\\', '/' :: left => (regexAt fuel left).map fun (cs, left) => ('/' :: cs, left)
      | '\\', d :: left => (regexAt fuel left).map fun (cs, left) => ('\\' :: d :: cs, left)
      | _, _ => (regexAt fuel rest).map fun (cs, left) => (c :: cs, left)

/-- The length of the number at the front of a text. -/
def numberLength (cs : List Char) : Nat :=
  let whole := cs.takeWhile Char.isDigit
  let rest := cs.drop whole.length
  let fraction : Nat :=
    match rest with
    | '.' :: more => 1 + (more.takeWhile Char.isDigit).length
    | _ => 0
  let digits := whole.length + (fraction - 1)
  if digits = 0 then 0
  else
    let exponent : Nat :=
      match rest.drop fraction with
      | e :: more =>
        let signed := more.head? = some '+' || more.head? = some '-'
        let k := ((if signed then more.drop 1 else more).takeWhile Char.isDigit).length
        if (e = 'e' || e = 'E') && 0 < k then 1 + (if signed then 1 else 0) + k else 0
      | [] => 0
    whole.length + fraction + exponent

/-- Cuts a script into tokens; `line` is the number of the line, and `fuel` bounds the number of
steps. A fault is told with its line. -/
def tokensUpTo : Nat → Nat → Option Token → List Char → Except (Nat × String) (List Placed)
  | 0, _, _, _ => .ok []
  | _, _, _, [] => .ok []
  | fuel + 1, line, before, c :: rest =>
    let go (t : Token) (left : List Char) : Except (Nat × String) (List Placed) :=
      (tokensUpTo fuel line (some t) left).map ((t, line) :: ·)
    if c = '\n' then
      (tokensUpTo fuel (line + 1) (some .newline) rest).map ((.newline, line) :: ·)
    else if isSpace c then tokensUpTo fuel line before rest
    else if c = '#' then tokensUpTo fuel line before (rest.dropWhile (· ≠ '\n'))
    else if c = '\\' && rest.head? = some '\n' then tokensUpTo fuel (line + 1) before (rest.drop 1)
    else if c = '"' then
      match textAt (rest.length + 1) rest with
      | some (cs, left) => go (.text (String.ofList cs)) left
      | none => .error (line, "runaway string constant " ++ "\"" ++
          String.ofList (rest.takeWhile (· ≠ '\n')) ++ " ...")
    else if c = '/' && !before.any Token.endsValue then
      match regexAt (rest.length + 1) rest with
      | some (cs, left) => go (.regex (String.ofList cs)) left
      | none => .error (line, "runaway regular expression /" ++
          String.ofList (rest.takeWhile (· ≠ '\n')) ++ " ...")
    else
      let n := numberLength (c :: rest)
      if 0 < n then go (.number (String.ofList ((c :: rest).take n))) ((c :: rest).drop n)
      else if c.isAlpha || c = '_' then
        let name := (c :: rest).takeWhile fun c => c.isAlphanum || c = '_'
        let left := (c :: rest).drop name.length
        let s := String.ofList name
        if words.contains s then go (.word s) left
        else if builtins.contains s then go (.builtin s) left
        else if left.head? = some '(' then go (.function s) left
        else go (.name s) left
      else
        match signs.find? fun s => s.toList.isPrefixOf (c :: rest) with
        | some s => go (.sign s) ((c :: rest).drop s.length)
        | none => .error (line, "unexpected character '" ++ String.singleton c ++ "'")

/-- Cuts a script into tokens. -/
def tokens (text : List Char) : Except (Nat × String) (List Placed) :=
  tokensUpTo (2 * text.length + 1) 1 none text

end WidgetForge.Records
