/-!
# The shortest decimal of a binary fraction

A finite double is `m · 2 ^ q`. The reals that round to it form an interval around it whose ends
count when `m` is even. The decimal written for it has the fewest digits of all decimals in that
interval and, of those, is nearest to the value. If a decimal grid has a point in the interval, so
does one of the two grid points next to the value; so the search tries those two for one digit, two
digits and so on, and seventeen digits always do.
-/

namespace WidgetForge.Decimal

/-- A positive finite double: `mantissa · 2 ^ exponent`. -/
structure Binary where
  /-- The integer in front. -/
  mantissa : Nat
  /-- The power of two behind it. -/
  exponent : Int
  /-- Whether the double below is only half as far away as the double above. -/
  narrow : Bool
  deriving DecidableEq, Repr

/-- A decimal: `digits · 10 ^ exponent`. -/
structure Shortest where
  /-- The integer in front, which does not end in zero. -/
  digits : Nat
  /-- The power of ten behind it. -/
  exponent : Int
  deriving DecidableEq, Repr

/-- The double that 63 bits without the sign stand for, none if it is not finite. Zero has mantissa
zero. -/
def Binary.ofBits (bits : Nat) : Option Binary :=
  let fraction : Nat := bits % 0x10000000000000
  let field : Nat := bits / 0x10000000000000 % 2048
  if field = 2047 then none
  else if field = 0 then some ⟨fraction, -1074, false⟩
  else some ⟨0x10000000000000 + fraction, (field : Int) - 1075, fraction = 0 && field != 1⟩

/-- The numbers `4 · m`, and the ends of the interval, are compared with decimals after both sides
are multiplied by the powers that make them integers: a quarter of the value's unit is
`numerator / denominator` units of the grid `10 ^ scale`. -/
def Binary.numerator (b : Binary) (scale : Int) : Nat :=
  Nat.pow 2 (b.exponent - 2).toNat * Nat.pow 10 (-scale).toNat

/-- The other side of the comparison. -/
def Binary.denominator (b : Binary) (scale : Int) : Nat :=
  Nat.pow 2 (2 - b.exponent).toNat * Nat.pow 10 scale.toNat

/-- Whether `point · 10 ^ scale` rounds to the double. -/
def Binary.covers (b : Binary) (scale : Int) (point : Nat) : Bool :=
  let below := (4 * b.mantissa - (if b.narrow then 1 else 2)) * b.numerator scale
  let above := (4 * b.mantissa + 2) * b.numerator scale
  let here := point * b.denominator scale
  if b.mantissa % 2 = 0 then below ≤ here && here ≤ above else below < here && here < above

/-- The grid point at or below the value. -/
def Binary.floorAt (b : Binary) (scale : Int) : Nat :=
  4 * b.mantissa * b.numerator scale / b.denominator scale

/-- Whether the grid point at or below the value is no farther away than the next; of two equally
far the even one is nearer. -/
def Binary.floorNearer (b : Binary) (scale : Int) : Bool :=
  let doubled := 2 * (4 * b.mantissa * b.numerator scale)
  let middle := (2 * b.floorAt scale + 1) * b.denominator scale
  doubled < middle || (doubled = middle && b.floorAt scale % 2 = 0)

/-- The grid point next to the value that rounds to it, if there is one. -/
def Binary.gridPoint (b : Binary) (scale : Int) : Option Nat :=
  let low := b.floorAt scale
  match b.covers scale low, b.covers scale (low + 1) with
  | true, true => some (if b.floorNearer scale then low else low + 1)
  | true, false => some low
  | false, true => some (low + 1)
  | false, false => none

/-- The power of ten of the value's first digit. -/
def Binary.magnitude (b : Binary) : Int :=
  ((Nat.toDigits 10 (b.floorAt (-400))).length : Int) - 401

/-- Takes zeros off the end of an integer, at most `fuel` of them. -/
def dropZeros : Nat → Nat → Int → Shortest
  | 0, digits, exponent => ⟨digits, exponent⟩
  | fuel + 1, digits, exponent =>
    if digits % 10 = 0 then dropZeros fuel (digits / 10) (exponent + 1) else ⟨digits, exponent⟩

/-- Tries grids with more and more digits, from `count` digits on. -/
def Binary.search (b : Binary) (count : Nat) : Nat → Shortest
  | 0 => ⟨0, 0⟩
  | fuel + 1 =>
    let scale := b.magnitude + 1 - (count : Int)
    match b.gridPoint scale with
    | some point => dropZeros 20 point scale
    | none => b.search (count + 1) fuel

/-- The shortest decimal that rounds to a positive double, and of those the nearest. -/
def Binary.shortest (b : Binary) : Shortest :=
  if b.mantissa = 0 then ⟨0, 0⟩ else b.search 1 17

end WidgetForge.Decimal
