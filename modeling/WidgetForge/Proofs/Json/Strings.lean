import Mathlib.Data.List.Basic
import WidgetForge.Json.Printer
import WidgetForge.Json.Reader

/-!
# What is written as a string is read back

Each character of a string is written so that it reads back by itself, whatever stands before it and
behind it. So a string that is written ends at its own closing quote and nowhere else.
-/

namespace WidgetForge.Json

open Text

/-- A digit of base sixteen reads back. -/
theorem value_digit {n : Nat} (h : n < 16) :
    Hexadecimal.value (Hexadecimal.digit n) = some n := by
  have hall : ∀ n < 16, Hexadecimal.value (Hexadecimal.digit n) = some n := by decide
  exact hall n h

/-- A control character reads back from its four digits. -/
theorem quad_of_lt {n : Nat} (h : n < 32) :
    Hexadecimal.quad '0' '0' (Hexadecimal.digit (n / 16)) (Hexadecimal.digit (n % 16)) =
      some n := by
  have hzero : Hexadecimal.value '0' = some 0 := by decide
  have hhigh := value_digit (show n / 16 < 16 by omega)
  have hlow := value_digit (show n % 16 < 16 by omega)
  simp only [Hexadecimal.quad, hzero, hhigh, hlow, Option.some.injEq]
  omega

theorem eq_ofNat_of_toNat {c : Char} {n : Nat} (h : c.toNat = n) : c = Char.ofNat n := by
  rw [← h, Char.ofNat_toNat]

theorem stringTail_quote (read rest : List Char) :
    stringTail read ('"' :: rest) = .ok (read.reverse, rest) := by
  rw [stringTail.eq_def]
  simp

theorem stringTail_plain {c : Char} (quote : c ≠ '"') (backslash : c ≠ '\\')
    (control : ¬ c.toNat < 32) (read rest : List Char) :
    stringTail read (c :: rest) = stringTail (c :: read) rest := by
  rw [stringTail.eq_def]
  simp [quote, backslash, control]

theorem stringTail_short {e d : Char} (h : shortEscape e = some d) (read rest : List Char) :
    stringTail read ('\\' :: e :: rest) = stringTail (d :: read) rest := by
  rw [stringTail.eq_def]
  simp [h]

theorem stringTail_pair {a b c d a' b' c' d' : Char} {n m : Nat}
    (hquad : Hexadecimal.quad a b c d = some n) (hlow : isLow n = false) (hhigh : isHigh n = true)
    (hquad' : Hexadecimal.quad a' b' c' d' = some m) (hlow' : isLow m = true)
    (read rest : List Char) :
    stringTail read
        ('\\' :: 'u' :: a :: b :: c :: d :: '\\' :: 'u' :: a' :: b' :: c' :: d' :: rest) =
      stringTail (joinSurrogates n m :: read) rest := by
  have hletter : shortEscape 'u' = none := by decide
  rw [stringTail.eq_def]
  simp [hletter, hquad, hlow, hhigh, hquad', hlow']

theorem stringTail_unicode {a b c d : Char} {n : Nat} (hquad : Hexadecimal.quad a b c d = some n)
    (hlow : isLow n = false) (hhigh : isHigh n = false) (read rest : List Char) :
    stringTail read ('\\' :: 'u' :: a :: b :: c :: d :: rest) =
      stringTail (Char.ofNat n :: read) rest := by
  have hletter : shortEscape 'u' = none := by decide
  rw [stringTail.eq_def]
  simp [hletter, hquad, hlow, hhigh]

/-- One character of a string reads back. -/
theorem stringTail_escapedChar (c : Char) (read rest : List Char) :
    stringTail read (escapedChar c ++ rest) = stringTail (c :: read) rest := by
  unfold escapedChar
  split_ifs with quote backslash feed ret tab back form control
  · subst quote; rfl
  · subst backslash; rfl
  · subst feed; rfl
  · subst ret; rfl
  · subst tab; rfl
  · rw [eq_ofNat_of_toNat back]; rfl
  · rw [eq_ofNat_of_toNat form]; rfl
  · have hquad := quad_of_lt control
    have hlow : isLow c.toNat = false := by simp [isLow]; omega
    have hhigh : isHigh c.toNat = false := by simp [isHigh]; omega
    have hread := stringTail_unicode hquad hlow hhigh read rest
    rwa [Char.ofNat_toNat] at hread
  · exact stringTail_plain quote backslash control read rest

/-- A string reads back up to its closing quote. -/
theorem stringTail_flatMap (cs read rest : List Char) :
    stringTail read (cs.flatMap escapedChar ++ '"' :: rest) = .ok (read.reverse ++ cs, rest) := by
  induction cs generalizing read with
  | nil => simp [stringTail_quote]
  | cons c cs ih => simp [List.append_assoc, stringTail_escapedChar, ih]

/-- **A string that is written reads back.** -/
theorem string_writeString (s : String) (rest : List Char) :
    ∃ tail, writeString s ++ rest = '"' :: tail ∧ string tail = .ok (s, rest) := by
  refine ⟨s.toList.flatMap escapedChar ++ '"' :: rest, by simp [writeString], ?_⟩
  simp [string, stringTail_flatMap, Except.map]

end WidgetForge.Json
