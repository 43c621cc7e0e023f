import WidgetForge.Utility.Format
import WidgetForge.Utility.Lines

/-!
# Comparing texts

The ways in which two texts can be compared: octet by octet, as numbers, as sizes, as months or as
versions, with some characters left out or letters taken for capitals.
-/

namespace WidgetForge.Utility.Comparison

/-- Compares octet by octet. -/
def octets : List Char → List Char → Ordering
  | [], [] => .eq
  | [], _ :: _ => .lt
  | _ :: _, [] => .gt
  | a :: as, b :: bs => (compare a.toNat b.toNat).then (octets as bs)

/-- A number with so many digits behind the point. -/
structure Fixed where
  /-- The number without the point. -/
  digits : Int
  /-- How many digits stand behind the point. -/
  places : Nat

/-- The number at the front of a text, which is zero if there is none. -/
def Fixed.ofFront (text : List Char) : Fixed :=
  let text := text.dropWhile isBlank
  let negative := text.head? = some '-'
  let cs := if negative then text.drop 1 else text
  let whole := cs.takeWhile Char.isDigit
  let fraction :=
    match cs.drop whole.length with
    | '.' :: rest => rest.takeWhile Char.isDigit
    | _ => []
  let n : Int := digitsValue (whole ++ fraction)
  ⟨if negative then -n else n, fraction.length⟩

/-- Compares numbers. -/
def Fixed.order (a b : Fixed) : Ordering :=
  compare (a.digits * Int.ofNat (Nat.pow 10 b.places)) (b.digits * Int.ofNat (Nat.pow 10 a.places))

/-- Compares the numbers at the fronts of texts. -/
def numbers (a b : List Char) : Ordering := (Fixed.ofFront a).order (Fixed.ofFront b)

/-- The rank of the letter behind the number at the front of a text; it has the sign of the number.
-/
def unitRank (text : List Char) : Int :=
  let n := Fixed.ofFront text
  let text := text.dropWhile isBlank
  let cs := if text.head? = some '-' then text.drop 1 else text
  let behind := cs.dropWhile fun c => c.isDigit || c = '.'
  let rank : Int :=
    match behind with
    | c :: _ => if c = 'k' then 1
        else (("KMGTPEZYRQ".toList.idxOf? c).map fun i => (i : Int) + 1).getD 0
    | [] => 0
  if n.digits = 0 then 0 else if n.digits < 0 then -rank else rank

/-- Compares sizes with letters for their units. -/
def sizes (a b : List Char) : Ordering := (compare (unitRank a) (unitRank b)).then (numbers a b)

/-- The number of the month at the front of a text, or zero. -/
def monthOf (text : List Char) : Nat :=
  let name := String.ofList (((text.dropWhile isBlank).take 3).map Char.toUpper)
  let names := ["JAN", "FEB", "MAR", "APR", "MAY", "JUN", "JUL", "AUG", "SEP", "OCT", "NOV", "DEC"]
  ((names.idxOf? name).map (· + 1)).getD 0

/-- A number with an exponent at the front of a text, as its class and a quotient with a sign: what
is no number comes before all numbers. -/
def floating (text : List Char) : Int × Int × Nat :=
  let (negative, cs) := Format.signOf (text.dropWhile isSpace)
  let word := String.ofList ((cs.take 3).map Char.toLower)
  if word = "inf" then (if negative then -1 else 1, 0, 1)
  else if word = "nan" then (-2, 0, 1)
  else
    match Format.decimalAt cs with
    | none => (-3, 0, 1)
    | some (q, _) => (0, if negative then -(q.num : Int) else q.num, q.den)

/-- Compares numbers with exponents. -/
def floats (a b : List Char) : Ordering :=
  let (rank, n, d) := floating a
  let (rank', n', d') := floating b
  (compare rank rank').then (compare (n * Int.ofNat d') (n' * Int.ofNat d))

/-! ### Versions -/

/-- The weight of the character at the front of a part of a version without digits. -/
def weight : List Char → Int
  | [] => -1
  | c :: _ =>
    if c.isDigit then 0
    else if c.isAlpha then c.toNat
    else if c = '~' then -2
    else (c.toNat : Int) + 256

/-- Compares versions: parts without digits by their weights, and numbers by their values; `fuel`
bounds the number of characters. -/
def versionsUpTo : Nat → List Char → List Char → Ordering
  | 0, _, _ => .eq
  | _, [], [] => .eq
  | fuel + 1, as, bs =>
    let inText (cs : List Char) : Bool := cs.head?.any fun c => !c.isDigit
    if inText as || inText bs then
      (compare (weight as) (weight bs)).then (versionsUpTo fuel (as.drop 1) (bs.drop 1))
    else
      let digits (cs : List Char) : List Char := cs.takeWhile Char.isDigit
      (compare (digitsValue (digits as)) (digitsValue (digits bs))).then
        (versionsUpTo fuel (as.drop (digits as).length) (bs.drop (digits bs).length))

/-- Compares versions. -/
def plainVersions (a b : List Char) : Ordering := versionsUpTo (a.length + b.length + 1) a b

/-- Whether a text is nothing or a number of endings, each a dot, a letter and letters or digits. -/
def isEndings : Nat → List Char → Bool
  | 0, _ => false
  | _, [] => true
  | fuel + 1, '.' :: c :: rest =>
    (c.isAlpha || c = '~') && isEndings fuel (rest.dropWhile fun c => c.isAlphanum || c = '~')
  | _, _ => false

/-- A name without its endings. -/
def withoutEndings (cs : List Char) : List Char :=
  let lengths := List.range (cs.length + 1)
  (lengths.find? fun n => 0 < n && isEndings (cs.length + 1) (cs.drop n)).elim cs cs.take

/-- Compares names with versions in them. -/
def versions (a b : List Char) : Ordering :=
  let rank : List Char → Nat
    | [] => 0
    | ['.'] => 1
    | ['.', '.'] => 2
    | '.' :: _ => 3
    | _ => 4
  let special (cs : List Char) : Bool := rank cs < 3
  (compare (rank a) (rank b)).then
    (if special a then .eq
    else (plainVersions (withoutEndings a) (withoutEndings b)).then (plainVersions a b))

/-! ### A choice of ways -/

/-- The characters that count by the letters of a way to compare. -/
def counted (letters : List Char) (cs : List Char) : List Char :=
  let cs :=
    if letters.contains 'd' then cs.filter fun c => isBlank c || c.isAlphanum
    else if letters.contains 'i' then cs.filter isVisible
    else cs
  if letters.contains 'f' then cs.map Char.toUpper else cs

/-- Compares in the way that letters say. -/
def byLetters (letters : List Char) (a b : List Char) : Ordering :=
  if letters.contains 'n' then numbers a b
  else if letters.contains 'g' then floats a b
  else if letters.contains 'h' then sizes a b
  else if letters.contains 'M' then compare (monthOf a) (monthOf b)
  else
    let (a, b) := (counted letters a, counted letters b)
    if letters.contains 'V' then versions a b else octets a b

end WidgetForge.Utility.Comparison
