import WidgetForge.Decimal.Shortest

/-!
# Numbers of JSON texts

An integer of 64 bits, with or without a sign, is kept as it is; every other number is a double. An
integer is written in decimal. A double is written with the shortest digits that read back, with
a point and digits on both sides of it where its first digit stands between the sixteenth place
before the point and the fifth behind it, and with an exponent otherwise.
-/

namespace WidgetForge.Json

/-- The integers that are kept exactly. -/
def isExact (i : Int) : Prop := -0x8000000000000000 ≤ i ∧ i < 0x10000000000000000

instance (i : Int) : Decidable (isExact i) := inferInstanceAs (Decidable (_ ∧ _))

/-- A number. -/
inductive Number where
  /-- An integer of 64 bits. -/
  | integer (value : Int) (exact : isExact value)
  /-- Any other number, as a double. -/
  | real (value : Float)

/-- Digits with a point: the digits, most significant first, and how many of them stand before the
point, which may be negative or past their end. -/
def positional (digits : List Char) (before : Int) : String :=
  if before ≤ 0 then
    "0." ++ String.ofList (List.replicate (-before).toNat '0' ++ digits)
  else
    let whole := digits.take before.toNat ++ List.replicate (before.toNat - digits.length) '0'
    let part := digits.drop before.toNat
    String.ofList whole ++ "." ++ (if part.isEmpty then "0" else String.ofList part)

/-- Digits with an exponent: one digit before the point, and no point if there is no other. -/
def scientific (digits : List Char) (power : Int) : String :=
  let part := digits.drop 1
  String.ofList (digits.take 1) ++ (if part.isEmpty then "" else "." ++ String.ofList part) ++
    (if power < 0 then "e-" else "e+") ++ toString power.natAbs

/-- The text of a double without its sign, given its bits without the sign. -/
def magnitudeText (bits : Nat) : String :=
  match Decimal.Binary.ofBits bits with
  | none => "null"
  | some b =>
    if b.mantissa = 0 then "0.0"
    else
      let s := b.shortest
      let digits := Nat.toDigits 10 s.digits
      let before : Int := digits.length + s.exponent
      if -4 ≤ before ∧ before ≤ 16 then positional digits before
      else scientific digits (before - 1)

/-- The text of a double. -/
def realText (x : Float) : String :=
  let bits := x.toBits.toNat
  (if 0x8000000000000000 ≤ bits then "-" else "") ++ magnitudeText (bits % 0x8000000000000000)

/-- The text of a number. -/
def Number.text : Number → String
  | .integer i _ => toString i
  | .real x => realText x

end WidgetForge.Json
