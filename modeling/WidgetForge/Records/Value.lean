import WidgetForge.Decimal.Shortest
import WidgetForge.Utility.Comparison

/-!
# Values of scripts on records

A value is a number or a text, and each can be taken for the other. A text that comes from outside
and looks like a number is both.
-/

namespace WidgetForge.Records

open Utility

/-- A value. -/
inductive Value where
  /-- Nothing yet: an empty text and a zero. -/
  | unset
  /-- A number. -/
  | number (x : Float)
  /-- A text. -/
  | text (s : String)
  /-- A text from outside that looks like a number. -/
  | both (s : String) (x : Float)

/-- The number at the front of a text and what stands behind it. -/
def numberAt (text : List Char) : Option (Float × List Char) :=
  let (negative, cs) := Format.signOf (text.dropWhile isSpace)
  let signed (x : Float) : Float := if negative then -x else x
  let whole := cs.takeWhile Char.isDigit
  let rest := cs.drop whole.length
  let (fraction, behind) : List Char × List Char :=
    match rest with
    | '.' :: more =>
      let digits := more.takeWhile Char.isDigit
      if whole.isEmpty && digits.isEmpty then ([], rest) else (digits, more.drop digits.length)
    | _ => ([], rest)
  if whole.isEmpty && fraction.isEmpty then
    let word := String.ofList ((cs.take 3).map Char.toLower)
    if word = "inf" then some (signed (1.0 / 0.0), cs.drop 3)
    else if word = "nan" then some (signed (0.0 / 0.0), cs.drop 3)
    else none
  else
    let (exponent, behind) : Int × List Char :=
      match behind with
      | e :: more =>
        let (down, digits) := Format.signOf more
        let digits' := digits.takeWhile Char.isDigit
        if (e = 'e' || e = 'E') && !digits'.isEmpty then
          let n : Int := digitsValue digits'
          (if down then -n else n, digits.drop digits'.length)
        else (0, behind)
      | [] => (0, behind)
    let total : Int := exponent - fraction.length
    let total : Int := if total < -5000 then -5000 else if 5000 < total then 5000 else total
    some (signed (Float.ofScientific (digitsValue (whole ++ fraction)) (total < 0) total.natAbs),
      behind)

/-- The value of a text that comes from outside. -/
def Value.ofInput (cs : List Char) : Value :=
  match numberAt cs with
  | some (x, behind) =>
    if behind.all isSpace then .both (String.ofList cs) x else .text (String.ofList cs)
  | none => .text (String.ofList cs)

/-- A value as a number. -/
def Value.toNumber : Value → Float
  | .unset => 0
  | .number x => x
  | .both _ x => x
  | .text s => ((numberAt s.toList).map Prod.fst).getD 0

/-- Whether a number is negative; so is a negative zero. -/
def isNegative (x : Float) : Bool := 0x8000000000000000 ≤ x.toBits.toNat

/-- A finite number without its sign as a quotient. -/
def quotientOf (x : Float) : Option Decimal.Rounded.Quotient :=
  (Decimal.Binary.ofBits (x.toBits.toNat % 0x8000000000000000)).map fun b =>
    Decimal.Rounded.Quotient.scale 2 ⟨b.mantissa, 1⟩ b.exponent

/-- A number without its fraction. -/
def wholePart (x : Float) : Option Int :=
  (quotientOf x).map fun q =>
    let n : Int := q.num / q.den
    if isNegative x then -n else n

/-- A number in a place of a format. -/
def putNumber (s : Format.Place) (x : Float) : List Char :=
  let lower := s.letter.toLower
  if "diouxc".toList.contains lower then
    match wholePart x with
    | some n =>
      let least : Int := -0x8000000000000000
      let most : Int :=
        if lower = 'd' || lower = 'i' then 0x7fffffffffffffff else 0xffffffffffffffff
      s.integer (if n < least then least else if most < n then most else n)
    | none => s.integer (if isNegative x then -0x8000000000000000 else 0x7fffffffffffffff)
  else
    match quotientOf x with
    | none =>
      let word := if x.isNaN then "nan" else "inf"
      let word := if s.letter.isUpper then word.toUpper else word
      s.number (s.sign (isNegative x)) word.toList false
    | some q =>
      let keep := s.flags.contains '#'
      let mark := if s.letter.isUpper then 'E' else 'e'
      let digits :=
        if lower = 'f' then Decimal.Rounded.fixed q (s.precision.getD 6) keep
        else if lower = 'e' then Decimal.Rounded.scientific q (s.precision.getD 6) keep mark
        else Decimal.Rounded.general q (s.precision.getD 6) keep mark
      s.number (s.sign (isNegative x)) digits true

/-! ### Formats -/

/-- What has been read of a format: the text so far, and the values that are left. -/
structure Filling where
  /-- The text so far, in pieces, last piece first. -/
  pieces : List (List Char)
  /-- The values that are left. -/
  values : List Value
  /-- What is wrong. -/
  fault : Option String

/-- A number in a format, or an asterisk that leaves it to a value. -/
def measureAt (cs : List Char) (values : List Value) : Option Int × List Char × List Value :=
  match cs with
  | '*' :: rest =>
    (values.head?.bind fun v => wholePart v.toNumber, rest, values.drop 1)
  | _ =>
    let digits := cs.takeWhile Char.isDigit
    (if digits.isEmpty then none else some (digitsValue digits), cs.drop digits.length, values)

/-- Fills a format with values; `text` makes a text of a value, and `fuel` bounds the number of
characters. -/
def fillUpTo (text : Value → String) : Nat → List Char → Filling → Filling
  | 0, _, f => f
  | _, [], f => f
  | fuel + 1, '%' :: '%' :: rest, f =>
      fillUpTo text fuel rest { f with pieces := ['%'] :: f.pieces }
  | fuel + 1, '%' :: rest, f =>
    let flags := rest.takeWhile fun c => "#-+ 0".toList.contains c
    let (width, behind, values) := measureAt (rest.drop flags.length) f.values
    let flags := if width.any (· < 0) then '-' :: flags else flags
    let (precision, behind, values) : Option Int × List Char × List Value :=
      match behind with
      | '.' :: more =>
        let (n, behind, values) := measureAt more values
        (some (n.getD 0), behind, values)
      | _ => (none, behind, values)
    match behind.dropWhile fun c => c = 'l' || c = 'h' || c = 'q' with
    | [] => { f with fault := some "improper conversion" }
    | letter :: left =>
      let s : Format.Place :=
        ⟨flags, (width.map Int.natAbs).getD 0,
          precision.bind fun n => if n < 0 then none else some n.toNat,
          letter⟩
      match values with
      | [] =>
        if "diouxXeEfFgGcs".toList.contains letter then
          { f with fault := some "not enough arguments" }
        else { f with fault := some "improper conversion" }
      | v :: values =>
        let put (cs : List Char) : Filling :=
          fillUpTo text fuel left { f with pieces := cs :: f.pieces, values := values }
        if "diouxXeEfFgG".toList.contains letter then put (putNumber s v.toNumber)
        else if letter = 's' then
          let cs := (text v).toList
          put (s.pad (s.precision.elim cs cs.take))
        else if letter = 'c' then
          match v with
          | .number x => put (s.pad [Char.ofNat (((wholePart x).getD 0) % 256).toNat])
          | v => put (s.pad (((text v).toList.take 1)))
        else { f with fault := some "improper conversion" }
  | fuel + 1, c :: rest, f => fillUpTo text fuel rest { f with pieces := [c] :: f.pieces }

/-- A number as a text, by a format for those that are not whole. -/
def numberText (format : String) (x : Float) : String :=
  match wholePart x with
  | none => if x.isNaN then (if isNegative x then "-nan" else "nan")
      else if isNegative x then "-inf" else "inf"
  | some n =>
    if (Float.ofInt n == x) && n.natAbs < 0x10000000000000000 then toString n
    else
      let f := fillUpTo (fun _ => "") (format.length + 1) format.toList ⟨[], [.number x], none⟩
      String.ofList f.pieces.reverse.flatten

/-- A value as a text, by a format for numbers that are not whole. -/
def Value.toText (format : String) : Value → String
  | .unset => ""
  | .number x => numberText format x
  | .text s => s
  | .both s _ => s

/-- Whether a value counts as true. -/
def Value.isTrue : Value → Bool
  | .unset => false
  | .number x => !(x == 0)
  | .text s => !s.isEmpty
  | .both _ x => !(x == 0)

/-- A truth as a value. -/
def Value.ofTruth (b : Bool) : Value := .number (if b then 1 else 0)

/-- Compares two values, as numbers if neither is only a text. -/
def Value.order (format : String) (a b : Value) : Ordering :=
  let asTexts : Ordering := Comparison.octets (a.toText format).toList (b.toText format).toList
  match a, b with
  | .text _, _ | _, .text _ => asTexts
  | a, b =>
    let x := a.toNumber
    let y := b.toNumber
    if x < y then .lt else if x == y then .eq else .gt

end WidgetForge.Records
