/-!
# Numbers of base sixteen

Digits above nine are written with small letters and read with small and capital ones.
-/

namespace WidgetForge.Text.Hexadecimal

/-- The digit of a value below sixteen. -/
def digit (n : Nat) : Char := if n < 10 then Char.ofNat (48 + n) else Char.ofNat (87 + n)

/-- The digits of a number. -/
def digits (n : Nat) : String := String.ofList (Nat.toDigits 16 n)

/-- The value of a digit. -/
def value (c : Char) : Option Nat :=
  if '0' ≤ c && c ≤ '9' then some (c.toNat - 48)
  else if 'a' ≤ c && c ≤ 'f' then some (c.toNat - 87)
  else if 'A' ≤ c && c ≤ 'F' then some (c.toNat - 55)
  else none

/-- The value of four digits. -/
def quad (a b c d : Char) : Option Nat :=
  match value a, value b, value c, value d with
  | some a, some b, some c, some d => some (((a * 16 + b) * 16 + c) * 16 + d)
  | _, _, _, _ => none

end WidgetForge.Text.Hexadecimal
