import WidgetForge.Regex.Basic
import WidgetForge.Utility.Lines

/-!
# Reading regular expressions

There are two ways to write regular expressions. In the basic one most operators begin with a
backslash, and in the extended one they go without. A text is first cut into tokens, which tell
operators from characters, and the tokens are the same for both.
-/

namespace WidgetForge.Regex

open Utility

/-- Why a text writes no regular expression. -/
inductive Fault where
  /-- Brackets are not closed. -/
  | bracket
  /-- A group is not closed. -/
  | group
  /-- A group is closed that has not been opened. -/
  | close
  /-- The bounds of a repetition are not closed. -/
  | brace
  /-- The bounds of a repetition make no sense. -/
  | bounds
  /-- There is nothing to repeat. -/
  | operand
  /-- The range of brackets is empty. -/
  | range
  /-- There is no such kind of characters. -/
  | kind
  /-- The text ends with a backslash. -/
  | backslash
  /-- A group is asked for that is not there. -/
  | reference
  deriving DecidableEq

/-- The wording of a fault. -/
def Fault.message : Fault → String
  | .bracket => "Unmatched [, [^, [:, [., or [="
  | .group => "Unmatched ( or \\("
  | .close => "Unmatched ) or \\)"
  | .brace => "Unmatched \\\x7b"
  | .bounds => "Invalid content of \\\x7b\\\x7d"
  | .operand => "Invalid preceding regular expression"
  | .range => "Invalid range end"
  | .kind => "Invalid character class name"
  | .backslash => "Trailing backslash"
  | .reference => "Invalid back reference"

/-- A token of a regular expression. -/
inductive Token where
  /-- An expression without parts. -/
  | atom (r : Regex)
  /-- A repetition of what comes before. -/
  | repeats (least : Nat) (most : Option Nat)
  /-- The start of a group. -/
  | opening
  /-- The end of a group. -/
  | closing
  /-- What stands between alternatives. -/
  | bar
  deriving DecidableEq

/-! ### Brackets -/

/-- A member that is named in brackets of a special kind, behind the opening bracket. -/
def namedAt (cs : List Char) : Except Fault (Option (Member × List Char)) :=
  match cs with
  | ':' :: rest =>
    let name := rest.takeWhile Char.isAlpha
    match rest.drop name.length with
    | ':' :: ']' :: left =>
      let text := String.ofList name
      if (characterKinds.lookup text).isSome then .ok (some (.kind text, left)) else .error .kind
    | _ => .ok none
  | mark :: c :: again :: ']' :: left =>
    if (mark = '=' || mark = '.') && again = mark then .ok (some (.range c c, left)) else .ok none
  | _ => .ok none

/-- Reads the members in brackets up to the closing one; `fuel` bounds their number. -/
def membersAt : Nat → Bool → List Char → Except Fault (List Member × List Char)
  | 0, _, _ => .error .bracket
  | _, _, [] => .error .bracket
  | fuel + 1, first, c :: rest =>
    if c = ']' && !first then .ok ([], rest)
    else do
      match ← if c = '[' then namedAt rest else pure none with
      | some (.kind name, left) =>
        let (more, left) ← membersAt fuel false left
        return (.kind name :: more, left)
      | found =>
        let (low, rest) : Char × List Char :=
          match found with
          | some (.range c _, left) => (c, left)
          | _ => (c, rest)
        match rest with
        | '-' :: d :: left =>
          if d = ']' then
            let (more, left) ← membersAt fuel false rest
            return (.range low low :: more, left)
          else
            let (high, left) ←
              match ← if d = '[' then namedAt left else pure none with
              | some (.range c _, left) => pure (c, left)
              | _ => pure (d, left)
            if high < low then throw .range
            let (more, left) ← membersAt fuel false left
            return (.range low high :: more, left)
        | _ =>
          let (more, left) ← membersAt fuel false rest
          return (.range low low :: more, left)

/-- Reads a set of characters behind its opening bracket. -/
def setAt (cs : List Char) : Except Fault (CharacterSet × List Char) := do
  let inverted := cs.head? = some '^'
  let (members, left) ← membersAt (cs.length + 1) true (if inverted then cs.drop 1 else cs)
  return (⟨inverted, members⟩, left)

/-! ### Tokens -/

/-- The expression for a character. -/
def char (c : Char) : Token := .atom (.one ⟨false, [.range c c]⟩)

/-- The expressions for letters behind a backslash. -/
def letters : List (Char × Regex) :=
  let word : List Member := [.kind "alnum", .range '_' '_']
  [('w', .one ⟨false, word⟩), ('W', .one ⟨true, word⟩), ('s', .one ⟨false, [.kind "space"]⟩),
    ('S', .one ⟨true, [.kind "space"]⟩), ('b', .edge .wordEdge), ('B', .edge .noEdge),
    ('<', .edge .wordStart), ('>', .edge .wordEnd), ('\x60', .edge .textStart),
    ('\'', .edge .textEnd)]

/-- Reads the bounds of a repetition up to their end, which has a backslash in the basic way. -/
def boundsAt (extended : Bool) (cs : List Char) : Except Fault (Token × List Char) :=
  let low := cs.takeWhile Char.isDigit
  let behind := cs.drop low.length
  let (high, behind) : Option (List Char) × List Char :=
    match behind with
    | ',' :: rest =>
      let digits := rest.takeWhile Char.isDigit
      (some digits, rest.drop digits.length)
    | rest => (none, rest)
  let least := digitsValue low
  let most : Option Nat :=
    match high with
    | none => some least
    | some [] => none
    | some digits => some (digitsValue digits)
  let closed : Option (List Char) :=
    match extended, behind with
    | true, '\x7d' :: rest => some rest
    | false, '\\' :: '\x7d' :: rest => some rest
    | _, _ => none
  match closed with
  | none => .error (if extended || behind.isEmpty then .brace else .bounds)
  | some rest =>
    if low.isEmpty && high.isNone then .error (if extended then .brace else .bounds)
    else if most.any (· < least) then .error .bounds
    else .ok (.repeats least most, rest)

/-- Cuts a text into tokens. `start` tells that an expression begins here, and `bare` that there is
nothing to repeat; if `loose`, that does no harm in the extended way. `fuel` bounds the number of
tokens. -/
def tokensUpTo (extended loose : Bool) : Nat → Bool → Bool → List Char → Except Fault (List Token)
  | 0, _, _, _ => .ok []
  | _, _, _, [] => .ok []
  | fuel + 1, start, bare, c :: rest =>
    let go (start bare : Bool) (t : Token) (left : List Char) : Except Fault (List Token) :=
      (tokensUpTo extended loose fuel start bare left).map (t :: ·)
    let plain (t : Token) (left : List Char) : Except Fault (List Token) := go false false t left
    let operator (c : Char) (left : List Char) : Except Fault (List Token) :=
      match c with
      | '(' => go true true .opening left
      | ')' => go false false .closing left
      | '|' => go true true .bar left
      | '+' => go false false (.repeats 1 none) left
      | '?' => go false false (.repeats 0 (some 1)) left
      | _ => do
        let (t, left) ← boundsAt extended left
        go false false t left
    match c with
    | '\\' =>
      match rest with
      | [] => .error .backslash
      | d :: left =>
        if !extended && (d = '(' || d = ')' || d = '|') then operator d left
        else if !extended && (d = '+' || d = '?') && !bare then operator d left
        else if !extended && d = '\x7b' then if bare then .error .operand else operator d left
        else if d.isDigit && d ≠ '0' then plain (.atom (.same (d.toNat - 48))) left
        else
          match letters.lookup d with
          | some r => plain (.atom r) left
          | none => plain (char d) left
    | '[' => do
      let (set, left) ← setAt rest
      plain (.atom (.one set)) left
    | '.' => plain (.atom (.one ⟨true, []⟩)) rest
    | '*' =>
      if !bare then plain (.repeats 0 none) rest
      else if !extended then plain (char '*') rest
      else if loose then go start true (.atom .empty) rest
      else .error .operand
    | '^' =>
      if extended then go false true (.atom (.edge .lineStart)) rest
      else if start then go false true (.atom (.edge .lineStart)) rest
      else plain (char '^') rest
    | '$' =>
      let last :=
        match rest with
        | [] => true
        | '\\' :: d :: _ => d = ')' || d = '|'
        | _ => false
      if extended || last then go false false (.atom (.edge .lineEnd)) rest
      else plain (char '$') rest
    | c =>
      if extended && (c = '(' || c = ')' || c = '|') then operator c rest
      else if extended && (c = '+' || c = '?') then
        if !bare then operator c rest
        else if loose then go start true (.atom .empty) rest
        else .error .operand
      else if extended && c = '\x7b' then
        match boundsAt true rest with
        | .ok _ => if bare then .error .operand else operator c rest
        | .error .brace => plain (char c) rest
        | .error e => .error e
      else plain (char c) rest

/-! ### Structure -/

/-- What has been read: an expression, the number of groups so far, and the tokens behind it. -/
abbrev Reading := Except Fault (Regex × Nat × List Token)

/-- The repetitions behind an expression. -/
def repeated (r : Regex) : List Token → Regex × List Token
  | .repeats least most :: rest => repeated (.many r least most) rest
  | rest => (r, rest)

mutual

/-- Reads alternatives; `fuel` bounds the number of tokens. -/
def alternatives : Nat → Nat → List Token → Reading
  | 0, _, _ => .error .group
  | fuel + 1, n, ts => do
    let (a, n, ts) ← sequence fuel n .empty ts
    match ts with
    | .bar :: rest =>
      let (b, n, ts) ← alternatives fuel n rest
      return (.alt a b, n, ts)
    | ts => return (a, n, ts)

/-- Reads expressions that follow each other, behind those that have been read. -/
def sequence : Nat → Nat → Regex → List Token → Reading
  | 0, _, _, _ => .error .group
  | fuel + 1, n, before, ts =>
    let joined (r : Regex) : Regex := if before = .empty then r else .seq before r
    match ts with
    | .atom r :: rest =>
      let (r, rest) := repeated r rest
      sequence fuel n (joined r) rest
    | .opening :: rest => do
      let (r, last, left) ← alternatives fuel (n + 1) rest
      match left with
      | .closing :: left =>
        let (r, left) := repeated (.group (n + 1) r) left
        sequence fuel last (joined r) left
      | _ => throw .group
    | .repeats _ _ :: rest => sequence fuel n before rest
    | ts => .ok (before, n, ts)

end

/-- Whether an expression asks only for groups that are there. -/
def isComplete (groups : Nat) : Regex → Bool
  | .same n => n ≤ groups
  | .seq a b | .alt a b => a.isComplete groups && b.isComplete groups
  | .many r _ _ | .group _ r => r.isComplete groups
  | _ => true

/-- The tokens with those that close no group as characters; `depth` is the number of open groups.
-/
def closeLoosely : Nat → List Token → List Token
  | _, [] => []
  | depth, .opening :: rest => .opening :: closeLoosely (depth + 1) rest
  | 0, .closing :: rest => char ')' :: closeLoosely 0 rest
  | depth + 1, .closing :: rest => .closing :: closeLoosely depth rest
  | depth, t :: rest => t :: closeLoosely depth rest

/-- Reads a regular expression. If `loose`, in the extended way a parenthesis that closes no group
is a character, and nothing may be repeated. -/
def read (extended loose : Bool) (text : List Char) : Except Fault Regex := do
  let tokens ← tokensUpTo extended loose (text.length + 1) true true text
  let tokens := if extended && loose then closeLoosely 0 tokens else tokens
  let (r, n, left) ← alternatives (2 * tokens.length + 2) 0 tokens
  if !left.isEmpty then throw .close
  if !r.isComplete n then throw .reference
  return r

/-- The expression for a text that stands for itself. -/
def ofText (text : List Char) : Regex :=
  text.foldl (fun r c => .seq r (.one ⟨false, [.range c c]⟩)) .empty

end WidgetForge.Regex
