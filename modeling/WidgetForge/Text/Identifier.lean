import WidgetForge.Text.Alphanumeric

/-!
# Identifiers in a text

A style variable is used by a markup text when its name stands there as an identifier: an occurrence
that no identifier character touches on either side. Occurrences are looked for from left to right,
and the search goes on behind the one just found, so two occurrences that overlap are not both seen.
-/

namespace WidgetForge.Text

/-- The characters of identifiers: letters, numbers, `_` and `$`. -/
def isIdentifier (c : Char) : Bool := isAlphanumeric c || c == '_' || c == '$'

/-- Whether a neighbour of an occurrence, if there is one, leaves the occurrence standing alone. -/
def separates (neighbour : Option Char) : Bool := !neighbour.any isIdentifier

/-- Whether an occurrence of `name` stands alone in the text. The first `skip` characters belong to
an occurrence already seen; `before` is the character that precedes the text. -/
def occursAlone (name : List Char) (skip : Nat) (before : Option Char) : List Char → Bool
  | [] => false
  | c :: rest =>
    match skip with
    | skip + 1 => occursAlone name skip (some c) rest
    | 0 =>
      if name.isPrefixOf (c :: rest) then
        (separates before && separates ((c :: rest).drop name.length).head?) ||
          occursAlone name (name.length - 1) (some c) rest
      else occursAlone name 0 (some c) rest

/-- Whether `name` is used as an identifier in `source`. The empty name never is. -/
def references (source name : String) : Bool :=
  !name.isEmpty && occursAlone name.toList 0 none source.toList

/-- The longest runs of identifier characters of a text, in order; `current` is the run that is
being read, last character first. -/
def runsFrom (current : List Char) : List Char → List (List Char)
  | [] => if current.isEmpty then [] else [current.reverse]
  | c :: rest =>
    if isIdentifier c then runsFrom (c :: current) rest
    else if current.isEmpty then runsFrom [] rest
    else current.reverse :: runsFrom [] rest

/-- The longest runs of identifier characters of a text, in order. -/
def identifierRuns (source : String) : List String :=
  (runsFrom [] source.toList).map String.ofList

end WidgetForge.Text
