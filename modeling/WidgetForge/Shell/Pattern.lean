import WidgetForge.Utility.Characters

/-!
# Patterns

A pattern matches texts. Most characters stand for themselves; a question mark stands for any
character, an asterisk for any text, and brackets for one of the characters in them. A character
that is quoted always stands for itself.
-/

namespace WidgetForge.Shell

open Utility

/-- A character and whether it is quoted. -/
structure Mark where
  /-- The character. -/
  char : Char
  /-- Whether it is quoted. -/
  quoted : Bool
  deriving DecidableEq

/-- Whether a mark is a character with a meaning. -/
def Mark.means (c : Char) (m : Mark) : Bool := m.char = c && !m.quoted

/-- What a piece of a pattern stands for. -/
inductive Pattern.Item where
  /-- Any text. -/
  | many
  /-- Any character. -/
  | any
  /-- A character. -/
  | one (c : Char)
  /-- A character that is among some, or that is not. -/
  | member (inverted : Bool) (members : List Member)
  deriving DecidableEq

/-- A pattern. -/
abbrev Pattern := List Pattern.Item

namespace Pattern

/-- The class that is named here, and what stands behind it. -/
def kindAt (marks : List Mark) : Option (String × List Mark) :=
  match marks with
  | opening :: rest =>
    if Mark.means ':' opening then
      let name := rest.takeWhile fun m => m.char.isAlpha
      match rest.drop name.length with
      | colon :: bracket :: more =>
        let text := String.ofList (name.map Mark.char)
        if colon.char = ':' && bracket.char = ']' && (characterKinds.lookup text).isSome then
          some (text, more)
        else none
      | _ => none
    else none
  | [] => none

/-- Reads the members of brackets up to the closing one, which is no member unless it is the first;
`fuel` bounds their number. -/
def membersAt : Nat → Bool → List Mark → Option (List Member × List Mark)
  | 0, _, _ => none
  | _, _, [] => none
  | fuel + 1, first, m :: rest =>
    let go (member : Member) (rest : List Mark) : Option (List Member × List Mark) :=
      (membersAt fuel false rest).map fun (members, left) => (member :: members, left)
    if Mark.means ']' m && !first then some ([], rest)
    else
      match if Mark.means '[' m then kindAt rest else none with
      | some (name, more) => go (.kind name) more
      | none =>
        match rest with
        | dash :: last :: more =>
          if Mark.means '-' dash && !Mark.means ']' last then go (.range m.char last.char) more
          else go (.range m.char m.char) rest
        | _ => go (.range m.char m.char) rest

/-- The pattern of some marks; `fuel` bounds their number. -/
def ofMarksUpTo : Nat → List Mark → Pattern
  | 0, _ => []
  | _, [] => []
  | fuel + 1, m :: rest =>
    if Mark.means '*' m then .many :: ofMarksUpTo fuel rest
    else if Mark.means '?' m then .any :: ofMarksUpTo fuel rest
    else if Mark.means '[' m then
      let inverted := rest.head?.any (Mark.means '!')
      let inside := if inverted then rest.drop 1 else rest
      match membersAt (inside.length + 1) true inside with
      | some (members, left) => .member inverted members :: ofMarksUpTo fuel left
      | none => .one '[' :: ofMarksUpTo fuel rest
    else .one m.char :: ofMarksUpTo fuel rest

/-- The pattern of some marks. -/
def ofMarks (marks : List Mark) : Pattern := ofMarksUpTo marks.length marks

/-- Whether any marks of a text make it more than a text. -/
def isNeeded (marks : List Mark) : Bool :=
  marks.any fun m => Mark.means '*' m || Mark.means '?' m || Mark.means '[' m

/-- Whether an item stands for a character. -/
def Item.holds (c : Char) : Item → Bool
  | .many => false
  | .any => true
  | .one d => c = d
  | .member inverted members => (members.any (Member.holds c)) != inverted

/-- Whether a test holds of an end of a text. -/
def ofSomeEnd (test : List Char → Bool) : List Char → Bool
  | [] => test []
  | c :: rest => test (c :: rest) || ofSomeEnd test rest

/-- Whether a pattern matches a text. -/
def holds : Pattern → List Char → Bool
  | [], cs => cs.isEmpty
  | .many :: rest, cs => ofSomeEnd (holds rest) cs
  | _ :: _, [] => false
  | item :: rest, c :: cs => item.holds c && holds rest cs

/-- The shortest or the longest start of a text that a pattern matches, as a length. -/
def startLength (p : Pattern) (longest : Bool) (cs : List Char) : Option Nat :=
  let lengths := List.range (cs.length + 1)
  (if longest then lengths.reverse else lengths).find? fun n => p.holds (cs.take n)

/-- The text without the start that a pattern matches. -/
def dropStart (p : Pattern) (longest : Bool) (cs : List Char) : List Char :=
  (p.startLength longest cs).elim cs cs.drop

/-- The text without the end that a pattern matches. -/
def dropEnd (p : Pattern) (longest : Bool) (cs : List Char) : List Char :=
  let shorter := List.range (cs.length + 1)
  let lengths := if longest then shorter else shorter.reverse
  (lengths.find? fun n => p.holds (cs.drop n)).elim cs cs.take

end Pattern

end WidgetForge.Shell
