import WidgetForge.Text.Hexadecimal

/-!
# Escapes

A backslash and what follows it stand for an octet. Programs differ in which escapes they know; what
they do not know they leave as it is.
-/

namespace WidgetForge.Utility

open Text

/-- Which escapes are known besides those that all programs know. -/
structure Escapes where
  /-- A quote. -/
  quote : Bool
  /-- An `x` with one or two digits of base sixteen. -/
  hexadecimal : Bool
  /-- A `c`, which ends all output. -/
  ending : Bool
  /-- One to three digits of base eight. -/
  octal : Bool
  /-- A zero with up to three more digits of base eight. -/
  zero : Bool

/-- The value of a digit of base eight. -/
def octalValue (c : Char) : Option Nat :=
  if '0' ≤ c && c ≤ '7' then some (c.toNat - 48) else none

/-- Takes at most `limit` digits off a text: their number and the rest. -/
def takeDigits (base : Nat) (digit : Char → Option Nat) : Nat → Nat → List Char → Nat × List Char
  | 0, n, cs => (n, cs)
  | _, n, [] => (n, [])
  | limit + 1, n, c :: cs =>
    match digit c with
    | none => (n, c :: cs)
    | some d => takeDigits base digit limit (n * base + d) cs

/-- The character for an octet. -/
def octet (n : Nat) : Char := Char.ofNat (n % 256)

/-- The control characters that letters stand for. -/
def controls : List (Char × Nat) :=
  [('\\', 92), ('a', 7), ('b', 8), ('e', 27), ('f', 12), ('n', 10), ('r', 13), ('t', 9), ('v', 11)]

/-- Reads an escape behind its backslash: what it stands for, or nothing if output ends with it. -/
def Escapes.read (known : Escapes) : List Char → Option (List Char) × List Char
  | [] => (some ['\\'], [])
  | c :: rest =>
    match controls.lookup c with
    | some n => (some [octet n], rest)
    | none =>
      if c = '"' && known.quote then (some ['"'], rest)
      else if c = 'c' && known.ending then (none, rest)
      else if c = 'x' && known.hexadecimal && (rest.head?.bind Hexadecimal.value).isSome then
        let (n, rest) := takeDigits 16 Hexadecimal.value 2 0 rest
        (some [octet n], rest)
      else if c = '0' && known.zero then
        let (n, rest) := takeDigits 8 octalValue 3 0 rest
        (some [octet n], rest)
      else if (octalValue c).isSome && known.octal then
        let (n, rest) := takeDigits 8 octalValue 3 0 (c :: rest)
        (some [octet n], rest)
      else (some ['\\', c], rest)

/-- What a text with escapes stands for, and whether output goes on behind it; `fuel` bounds the
steps. -/
def Escapes.resolveUpTo (known : Escapes) : Nat → List Char → List Char × Bool
  | 0, _ => ([], true)
  | _, [] => ([], true)
  | fuel + 1, c :: rest =>
    if c = '\\' then
      match known.read rest with
      | (none, _) => ([], false)
      | (some cs, rest) =>
        let (more, goes) := known.resolveUpTo fuel rest
        (cs ++ more, goes)
    else
      let (more, goes) := known.resolveUpTo fuel rest
      (c :: more, goes)

/-- What a text with escapes stands for, and whether output goes on behind it. -/
def Escapes.resolve (known : Escapes) (text : String) : String × Bool :=
  let (cs, goes) := known.resolveUpTo (text.length + 1) text.toList
  (String.ofList cs, goes)

end WidgetForge.Utility
