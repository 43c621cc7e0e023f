import WidgetForge.Utility.Characters

/-!
# Regular expressions

A regular expression describes texts. Where it is matched, the longest text wins, and among several
ways to match that text the one whose earlier parts are longer. Parts may be groups, and what a
group has matched can be asked for again further on.

A match is found by following the expression through the text and keeping all places that can be
reached; `Regex.ends` lists them, the furthest first.

The programs that search texts and change them all share this.
-/

namespace WidgetForge

open Utility

/-- A set of characters: those that are members, or all others. -/
structure CharacterSet where
  /-- Whether all others are meant. -/
  inverted : Bool
  /-- The members. -/
  members : List Member
  deriving DecidableEq

/-- How a text is looked at. -/
structure Regex.Manner where
  /-- Whether small letters and capitals are the same. -/
  folded : Bool
  /-- Whether each line has a start and an end, or only the text. -/
  lines : Bool

/-- The capital of a small letter and the small letter of a capital. -/
def Regex.otherCase (c : Char) : Char := if c.isUpper then c.toLower else c.toUpper

/-- Whether a character is in a set. -/
def CharacterSet.holds (s : CharacterSet) (m : Regex.Manner) (c : Char) : Bool :=
  let found (c : Char) : Bool := s.members.any (Member.holds c)
  (found c || (m.folded && found (Regex.otherCase c))) != s.inverted

/-- A place between characters. -/
inductive Edge where
  /-- The start of a line. -/
  | lineStart
  /-- The end of a line. -/
  | lineEnd
  /-- The start of the text. -/
  | textStart
  /-- The end of the text. -/
  | textEnd
  /-- The start of a word. -/
  | wordStart
  /-- The end of a word. -/
  | wordEnd
  /-- The start or the end of a word. -/
  | wordEdge
  /-- No start or end of a word. -/
  | noEdge
  deriving DecidableEq

/-- A regular expression. -/
inductive Regex where
  /-- The empty text. -/
  | empty
  /-- A character of a set. -/
  | one (set : CharacterSet)
  /-- A place. -/
  | edge (e : Edge)
  /-- One expression and then another. -/
  | seq (a b : Regex)
  /-- One of two expressions. -/
  | alt (a b : Regex)
  /-- An expression again and again, at least and at most so many times. -/
  | many (r : Regex) (least : Nat) (most : Option Nat)
  /-- A group with a number. -/
  | group (n : Nat) (r : Regex)
  /-- What a group has matched. -/
  | same (n : Nat)
  deriving DecidableEq

namespace Regex

/-- How far a match has come, and what its groups have matched. -/
structure Reached where
  /-- How many characters come before this place. -/
  place : Nat
  /-- The groups with their starts and ends, the last one first. -/
  groups : List (Nat × Nat × Nat)
  deriving DecidableEq

/-- Whether a character is part of a word. -/
def isWordChar (c : Char) : Bool := c.isAlphanum || c = '_'

/-- Whether a place in a text is of a kind. -/
def isAt (text : Array Char) (m : Manner) (place : Nat) (e : Edge) : Bool :=
  let before := if place = 0 then none else text[place - 1]?
  let behind := text[place]?
  let inBefore := before.any isWordChar
  let inBehind := behind.any isWordChar
  match e with
  | .lineStart => place = 0 || (m.lines && before = some '\n')
  | .lineEnd => place = text.size || (m.lines && behind = some '\n')
  | .textStart => place = 0
  | .textEnd => place = text.size
  | .wordStart => !inBefore && inBehind
  | .wordEnd => inBefore && !inBehind
  | .wordEdge => inBefore != inBehind
  | .noEdge => inBefore == inBehind

/-- The first of each of those that have come to the same place, the furthest first. If `exact`,
those are kept apart whose groups differ. -/
def tidy (exact : Bool) (found : List Reached) : List Reached :=
  let alike (a b : Reached) : Bool := if exact then a = b else a.place = b.place
  let distinct := found.foldl (fun (kept : List Reached) r =>
    if kept.any (alike r) then kept else r :: kept) []
  distinct.reverse.mergeSort fun a b => b.place ≤ a.place

/-- All that can be reached by taking steps at least and at most so many times. Beyond the least
number a step has to go on; `fuel` bounds the number of steps. -/
def iterate (exact : Bool) (step : Reached → List Reached) :
    Nat → Nat → Option Nat → List Reached → List Reached
  | 0, _, _, now => now
  | fuel + 1, least, most, now =>
    if now.isEmpty then []
    else if 0 < least then
      iterate exact step fuel (least - 1) (most.map (· - 1)) (tidy exact (now.flatMap step))
    else if most = some 0 then now
    else
      let next := now.flatMap fun r => (step r).filter fun s => r.place < s.place
      now ++ iterate exact step fuel 0 (most.map (· - 1)) (tidy exact next)

/-- Whether a text stands at a place of another. -/
def standsAt (text : Array Char) (m : Manner) (place : Nat) : List Char → Bool
  | [] => true
  | c :: rest =>
    (text[place]?).any (fun d => c = d || (m.folded && otherCase c = d)) &&
      standsAt text m (place + 1) rest

/-- Whether an expression asks for what a group has matched. -/
def asksForGroups : Regex → Bool
  | .same _ => true
  | .seq a b | .alt a b => a.asksForGroups || b.asksForGroups
  | .many r _ _ | .group _ r => r.asksForGroups
  | .empty | .one _ | .edge _ => false

/-- All places that an expression leads to from one; `exact` keeps apart those whose groups differ.
-/
def ends (exact : Bool) (text : Array Char) (m : Manner) : Regex → Reached → List Reached
  | .empty, r => [r]
  | .one set, r =>
    if (text[r.place]?).any (set.holds m) then [{ r with place := r.place + 1 }] else []
  | .edge e, r => if isAt text m r.place e then [r] else []
  | .seq a b, r => tidy exact ((ends exact text m a r).flatMap (ends exact text m b))
  | .alt a b, r => tidy exact (ends exact text m a r ++ ends exact text m b r)
  | .many a least most, r =>
    tidy exact (iterate exact (ends exact text m a) (text.size + least + 2) least most [r])
  | .group n a, r =>
    (ends exact text m a r).map fun s => { s with groups := (n, r.place, s.place) :: s.groups }
  | .same n, r =>
    match r.groups.lookup n with
    | none => []
    | some (start, stop) =>
      let taken := (text.toList.drop start).take (stop - start)
      if standsAt text m r.place taken then [{ r with place := r.place + taken.length }] else []

/-- A part of a text that an expression matches. -/
structure Match where
  /-- Its start. -/
  start : Nat
  /-- Its end. -/
  stop : Nat
  /-- The groups with their starts and ends. -/
  groups : List (Nat × Nat × Nat)

/-- The match that begins at a place. -/
def matchAt (r : Regex) (m : Manner) (text : Array Char) (place : Nat) : Option Match :=
  ((ends r.asksForGroups text m r ⟨place, []⟩).head?).map fun s => ⟨place, s.place, s.groups⟩

/-- The first match that begins at a place or behind it; `fuel` bounds the number of places. -/
def searchUpTo (r : Regex) (m : Manner) (text : Array Char) : Nat → Nat → Option Match
  | 0, _ => none
  | fuel + 1, place =>
    if text.size < place then none
    else
      match r.matchAt m text place with
      | some found => some found
      | none => searchUpTo r m text fuel (place + 1)

/-- The first match that begins at a place or behind it. -/
def search (r : Regex) (m : Manner) (text : Array Char) (place : Nat) : Option Match :=
  searchUpTo r m text (text.size + 1) place

/-- What a group has matched. -/
def Match.group (found : Match) (text : Array Char) (n : Nat) : List Char :=
  let part (start stop : Nat) : List Char := (text.extract start stop).toList
  if n = 0 then part found.start found.stop
  else (found.groups.lookup n).elim [] fun (start, stop) => part start stop

/-- The number of groups. -/
def groups : Regex → Nat
  | .empty | .one _ | .edge _ | .same _ => 0
  | .seq a b | .alt a b => max a.groups b.groups
  | .many r _ _ => r.groups
  | .group n r => max n r.groups

end Regex

end WidgetForge
