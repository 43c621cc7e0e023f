/-!
# Rounded decimals

A number is a quotient of two natural numbers. It is rounded to as many binary digits as a machine
word has, and then written with a fixed number of decimal digits; a half goes to the even neighbour
both times.
-/

namespace WidgetForge.Decimal.Rounded

/-- A quotient. -/
structure Quotient where
  /-- What is divided. -/
  num : Nat
  /-- By what; not zero. -/
  den : Nat
  deriving Repr

/-- The natural number nearest to a quotient. -/
def Quotient.round (q : Quotient) : Nat :=
  let whole := q.num / q.den
  let rest := 2 * (q.num % q.den)
  if rest < q.den then whole
  else if q.den < rest then whole + 1
  else if whole % 2 = 0 then whole
  else whole + 1

/-- A power of ten. -/
def tenTo (n : Nat) : Nat := Nat.pow 10 n

/-- The quotient times a power of a base. -/
def Quotient.scale (base : Nat) (q : Quotient) (exponent : Int) : Quotient :=
  match exponent with
  | .ofNat n => ⟨q.num * Nat.pow base n, q.den⟩
  | .negSucc n => ⟨q.num, q.den * Nat.pow base (n + 1)⟩

/-- The quotient rounded to so many binary digits. -/
def Quotient.toBinary (q : Quotient) (digits : Nat) : Quotient :=
  if q.num = 0 then q
  else
    let guess : Int := (q.num.log2 : Int) - q.den.log2
    let exponent : Int :=
      if (q.scale 2 (-guess)).num < (q.scale 2 (-guess)).den then guess - 1 else guess
    let shift : Int := (digits : Int) - 1 - exponent
    Quotient.scale 2 ⟨(q.scale 2 shift).round, 1⟩ (-shift)

/-- Digits with a point before the last `places` of them. -/
def pointed (digits : List Char) (places : Nat) (point : Bool) : List Char :=
  let padded := List.replicate (places + 1 - digits.length) '0' ++ digits
  let whole := padded.take (padded.length - places)
  if places = 0 then if point then whole ++ ['.'] else whole
  else whole ++ '.' :: padded.drop (padded.length - places)

/-- The quotient with so many digits behind the point. -/
def fixed (q : Quotient) (places : Nat) (point : Bool) : List Char :=
  pointed (Nat.toDigits 10 (q.scale 10 places).round) places point

/-- The decimal exponent of a quotient that is not zero; `fuel` bounds the search upwards. -/
def exponentFrom (q : Quotient) : Nat → Int → Int
  | 0, e => e
  | fuel + 1, e =>
    let next := q.scale 10 (-(e + 1))
    if next.num < next.den then e else exponentFrom q fuel (e + 1)

/-- The decimal exponent of a quotient and its digits, so many of them. -/
def digitsOf (q : Quotient) (count : Nat) : Int × Nat :=
  if q.num = 0 then (0, 0)
  else
    let low : Int := -((Nat.toDigits 10 q.den).length : Int) - 1
    let fuel := (Nat.toDigits 10 q.num).length + (Nat.toDigits 10 q.den).length + 2
    let e := exponentFrom q fuel low
    let n := (q.scale 10 ((count : Int) - 1 - e)).round
    if n ≥ tenTo count then (e + 1, n / 10) else (e, n)

/-- An exponent with its sign and at least two digits. -/
def exponentText (mark : Char) (e : Int) : List Char :=
  let digits := Nat.toDigits 10 e.natAbs
  [mark, if e < 0 then '-' else '+'] ++ List.replicate (2 - digits.length) '0' ++ digits

/-- The quotient with one digit before the point, so many behind it, and an exponent. -/
def scientific (q : Quotient) (places : Nat) (point : Bool) (mark : Char) : List Char :=
  let (e, n) := digitsOf q (places + 1)
  pointed (Nat.toDigits 10 n) places point ++ exponentText mark e

/-- Decimal digits without the zeros at their end, and without a point at their end. -/
def withoutZeros (cs : List Char) : List Char :=
  if cs.contains '.' then
    match cs.reverse.dropWhile (· = '0') with
    | '.' :: rest => rest.reverse
    | rest => rest.reverse
  else cs

/-- The quotient with so many digits in all, without or with an exponent, whichever is shorter;
zeros at the end are kept only on demand. -/
def general (q : Quotient) (count : Nat) (keep : Bool) (mark : Char) : List Char :=
  let count := if count = 0 then 1 else count
  let (e, n) := digitsOf q count
  if e < -4 || (count : Int) ≤ e then
    let digits := pointed (Nat.toDigits 10 n) (count - 1) keep
    (if keep then digits else withoutZeros digits) ++ exponentText mark e
  else
    let digits := fixed q ((count : Int) - 1 - e).toNat keep
    if keep then digits else withoutZeros digits

end WidgetForge.Decimal.Rounded
