import Mathlib.Data.List.TakeWhile
import WidgetForge.Json.Number
import WidgetForge.Proofs.Json.Locality

/-!
# What is written as an integer is read back

The digits of an integer of 64 bits are read up to the last one, so the number is kept exactly. It
begins with a zero only if it is zero. It is written with digits and perhaps a sign, so on one line.
-/

namespace WidgetForge.Json

/-- Digits are all taken if the number that they write stays below the limit. -/
theorem accumulate_of_lt {limit n : Nat} {ds : List Char}
    (h : Nat.ofDigitChars 10 ds n < limit) :
    accumulate limit n ds = (Nat.ofDigitChars 10 ds n, []) := by
  induction ds generalizing n with
  | nil => simp [accumulate]
  | cons d ds ih =>
    have hdigit : 10 * n + digit d = 10 * n + (d.toNat - '0'.toNat) := rfl
    rw [Nat.ofDigitChars_cons, ← hdigit] at h ⊢
    -- The digits that follow only make the number larger, so it is below the limit here, too.
    have hle : 10 * n + digit d ≤ Nat.ofDigitChars 10 ds (10 * n + digit d) := by
      rw [Nat.ofDigitChars_eq_ofDigitChars_zero]
      have hpow := Nat.le_mul_of_pos_left (10 * n + digit d) (Nat.pow_pos (n := ds.length)
        (show 0 < 10 by decide))
      omega
    rw [accumulate, if_pos (by omega), ih h]

/-- Only zero begins with a zero. -/
theorem toDigits_head {n : Nat} (hn : 0 < n) :
    ∃ c rest, Nat.toDigits 10 n = c :: rest ∧ c ≠ '0' ∧ c.isDigit = true := by
  induction n using Nat.strongRecOn with
  | ind n ih =>
    by_cases hsmall : n < 10
    · refine ⟨n.digitChar, [], Nat.toDigits_of_lt_base hsmall, ?_, ?_⟩
      · simpa using Nat.ne_of_gt hn
      · simpa [Nat.isDigit_digitChar] using hsmall
    · obtain ⟨c, rest, hdigits, hzero, hdigit⟩ := ih (n / 10) (by omega) (by omega)
      refine ⟨c, rest ++ [(n % 10).digitChar], ?_, hzero, hdigit⟩
      rw [Nat.toDigits_of_base_le (by decide) (by omega), hdigits, List.cons_append]

theorem takeWhile_toDigits (n : Nat) {rest : List Char} (hrest : Stops rest) :
    (Nat.toDigits 10 n ++ rest).takeWhile Char.isDigit = Nat.toDigits 10 n ∧
      (Nat.toDigits 10 n ++ rest).dropWhile Char.isDigit = rest := by
  have hall : ∀ c ∈ Nat.toDigits 10 n, c.isDigit = true := fun c hc =>
    Nat.isDigit_of_mem_toDigits (by decide) (by decide) hc
  have hend : (Nat.toDigits 10 n).dropWhile Char.isDigit = [] := List.dropWhile_eq_nil_iff.mpr hall
  have hstops : (Nat.toDigits 10 n).dropWhile Char.isDigit = [] → Stops rest := fun _ => hrest
  obtain ⟨htake, hdrop⟩ := takeWhile_append_of_stops hstops
  rw [htake, hdrop, hend]
  exact ⟨List.takeWhile_eq_self_iff.mpr hall, rfl⟩

/-- What follows an integer is left as it is. -/
theorem numberTail_of_stops (negative : Bool) (n : Nat) {rest : List Char} (hrest : Stops rest) :
    numberTail negative n 0 rest = .ok (wholeNumber negative n, rest) := by
  unfold numberTail
  cases rest with
  | nil => simp
  | cons c rest =>
    obtain ⟨-, hpoint, he, hE⟩ := hrest c rfl
    simp [hpoint, he, hE]

/-- The digits of a number read back. -/
theorem number_toDigits (negative : Bool) {n : Nat} (hn : n < 0x10000000000000000)
    {rest : List Char} (hrest : Stops rest) :
    number negative (Nat.toDigits 10 n ++ rest) = .ok (wholeNumber negative n, rest) := by
  rcases Nat.eq_zero_or_pos n with rfl | hpos
  · have hnext : rest.head?.any Char.isDigit = false := by
      cases rest with
      | nil => rfl
      | cons c rest => exact (hrest c rfl).1
    simp [Nat.toDigits_zero, number, hnext, numberTail_of_stops negative 0 hrest]
  · obtain ⟨c, digits, hdigits, hzero, hdigit⟩ := toDigits_head hpos
    obtain ⟨htake, hdrop⟩ := takeWhile_toDigits n hrest
    have hlt : Nat.ofDigitChars 10 (Nat.toDigits 10 n) 0 < 0x10000000000000000 := by
      rwa [Nat.ofDigitChars_ten_toDigits]
    have hvalue := accumulate_of_lt hlt
    rw [Nat.ofDigitChars_ten_toDigits] at hvalue
    rw [hdigits, List.cons_append] at htake hdrop ⊢
    simp only [number, hzero, hdigit, htake, hdrop, if_false, if_true]
    rw [← hdigits, hvalue]
    exact numberTail_of_stops negative n hrest

theorem scalar_digit {c : Char} (hc : c.isDigit = true) (rest : List Char) :
    scalar (c :: rest) = (number false (c :: rest)).map fun (n, rest) => (.number n, rest) := by
  have hn : c ≠ 'n' := by rintro rfl; exact nomatch hc
  have ht : c ≠ 't' := by rintro rfl; exact nomatch hc
  have hf : c ≠ 'f' := by rintro rfl; exact nomatch hc
  have hminus : c ≠ '-' := by rintro rfl; exact nomatch hc
  simp only [scalar, hn, ht, hf, hminus, hc, if_false, if_true]

theorem scalar_minus (rest : List Char) :
    scalar ('-' :: rest) = (number true rest).map fun (n, rest) => (.number n, rest) := by
  simp [scalar]

theorem scalar_toDigits {n : Nat} (hn : n < 0x10000000000000000) {rest : List Char}
    (hrest : Stops rest) :
    scalar (Nat.toDigits 10 n ++ rest) = .ok (.number (wholeNumber false n), rest) := by
  obtain ⟨c, digits, hdigits⟩ := List.exists_cons_of_ne_nil (Nat.toDigits_ne_nil (b := 10) (n := n))
  have hdigit : c.isDigit = true := by
    refine Nat.isDigit_of_mem_toDigits (b := 10) (n := n) (by decide) (by decide) ?_
    rw [hdigits]
    exact List.mem_cons_self
  have hnumber := number_toDigits false hn hrest
  rw [hdigits, List.cons_append] at hnumber ⊢
  rw [scalar_digit hdigit, hnumber]
  rfl

/-- **An integer of 64 bits that is written reads back.** -/
theorem scalar_integer {i : Int} (hi : isExact i) {rest : List Char} (hrest : Stops rest) :
    scalar ((toString i).toList ++ rest) = .ok (.integer i hi, rest) := by
  have hbounds := hi
  unfold isExact at hbounds
  rw [Int.toString_eq_repr, Int.repr_eq_if]
  split_ifs with hneg
  · obtain ⟨n, rfl⟩ := Int.eq_ofNat_of_zero_le hneg
    have hn : n < 0x10000000000000000 := by omega
    rw [Int.toNat_natCast, Nat.toList_repr, scalar_toDigits hn hrest]
    simp only [wholeNumber, Value.integer, hn, Bool.false_eq_true, if_false, dif_pos]
  · obtain ⟨n, hin⟩ := Int.eq_ofNat_of_zero_le (show 0 ≤ -i by omega)
    obtain rfl : i = -(n : Int) := by omega
    have hn : n ≠ 0 ∧ n ≤ 0x8000000000000000 := by omega
    have hminus : ("-" ++ (n : Nat).repr).toList ++ rest = '-' :: (Nat.toDigits 10 n ++ rest) := by
      rw [String.toList_append, Nat.toList_repr]
      rfl
    rw [hin, Int.toNat_natCast, hminus, scalar_minus, number_toDigits true (by omega) hrest]
    rw [wholeNumber, if_pos rfl, dif_pos hn]
    rfl

/-- An integer is written without control characters. -/
theorem control_not_mem_toString {c : Char} (hc : c.toNat < 32) (i : Int) :
    c ∉ (toString i).toList := by
  have hminus : c ≠ '-' := by
    rintro rfl
    exact absurd hc (by decide)
  have hdigits (n : Nat) : c ∉ Nat.toDigits 10 n := by
    intro hmem
    have hdigit := Nat.isDigit_of_mem_toDigits (by decide) (by decide) hmem
    have hlow : 48 ≤ c.toNat := by
      simp only [Char.isDigit, Bool.and_eq_true, decide_eq_true_eq] at hdigit
      exact hdigit.1
    omega
  rw [Int.toString_eq_repr, Int.repr_eq_if]
  split_ifs
  · rw [Nat.toList_repr]
    exact hdigits _
  · rw [String.toList_append, Nat.toList_repr, List.mem_append, not_or]
    exact ⟨by simpa using hminus, hdigits _⟩

end WidgetForge.Json
