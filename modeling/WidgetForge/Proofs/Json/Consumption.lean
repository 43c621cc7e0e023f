import WidgetForge.Proofs.Json.Locality

/-!
# Readers leave no more than they are given

A reader of a number, a string or a word goes forward only. So what it leaves is not longer than the
text that it was given, and a text has no more items than characters.
-/

namespace WidgetForge.Json

/-- The reader `f` leaves no more text than it is given. -/
def Consumes {α : Type} (f : Reader α) : Prop :=
  ∀ cs a left, f cs = .ok (a, left) → left.length ≤ cs.length

section

variable {α β : Type} {f : Reader α}

theorem Consumes.map (h : Consumes f) (g : α → β) :
    Consumes fun cs => (f cs).map fun (a, rest) => (g a, rest) := by
  intro cs b left hf
  obtain ⟨a, hcs, -⟩ := map_eq_ok.mp hf
  exact h cs a left hcs

/-- What consumes the text behind a character consumes the text with the character. -/
theorem Consumes.behind (h : Consumes f) {c : Char} {cs left : List Char} {a : α}
    (hf : f cs = .ok (a, left)) : left.length ≤ (c :: cs).length :=
  Nat.le_trans (h cs a left hf) (Nat.le_succ _)

theorem consumes_word (a : α) (letters : List Char) : Consumes (word a letters) := by
  induction letters with
  | nil =>
    intro cs b left h
    simp only [word, Except.ok.injEq, Prod.mk.injEq] at h
    exact Nat.le_of_eq (congrArg List.length h.2.symm)
  | cons l letters ih =>
    intro cs b left h
    cases cs with
    | nil => cases h
    | cons c cs =>
      rw [word] at h
      split_ifs at h
      exact ih.behind h

end

/-! ### Numbers -/

theorem Still.consumes {f : Reader Number} (hf : Still f) : Consumes f :=
  fun cs a left h => Nat.le_of_eq (congrArg List.length (hf cs a left h).1)

/-- What goes on behind digits. -/
theorem consumes_of_digits {f : List Char → Reader Number} (hf : ∀ digits, Consumes (f digits)) :
    Consumes fun cs => f (cs.takeWhile Char.isDigit) (cs.dropWhile Char.isDigit) :=
  fun _ _ _ h => Nat.le_trans (hf _ _ _ _ h) (List.dropWhile_suffix _).length_le

theorem consumes_exponent (negative : Bool) (n : Nat) (e : Int) :
    Consumes (exponent negative n e) := by
  intro cs a left h
  have hdigits : Consumes (exponentDigits negative n e (exponentSign cs).1) :=
    consumes_of_digits fun digits => (still_exponentTail _ _ _ _ digits).consumes
  refine Nat.le_trans (hdigits _ _ _ h) ?_
  cases cs with
  | nil => exact Nat.le_refl _
  | cons c rest =>
    rw [exponentSign]
    split_ifs
    · exact Nat.le_succ _
    · exact Nat.le_succ _
    · exact Nat.le_refl _

theorem consumes_exponentOrEnd (negative : Bool) (n : Nat) (e : Int) :
    Consumes (exponentOrEnd negative n e) := by
  intro cs a left h
  have hend := (still_realNumber negative n e).consumes
  unfold exponentOrEnd at h
  cases cs with
  | nil => exact hend _ _ _ h
  | cons c rest =>
    simp only at h
    split_ifs at h
    · exact (consumes_exponent _ _ _).behind h
    · exact hend _ _ _ h

theorem consumes_fraction (negative : Bool) (n : Nat) (e : Int) :
    Consumes (fraction negative n e) := by
  refine consumes_of_digits fun digits cs a left h => ?_
  unfold fractionTail at h
  split_ifs at h
  exact consumes_exponentOrEnd _ _ _ _ _ _ h

theorem consumes_numberTail (negative : Bool) (n extra : Nat) :
    Consumes (numberTail negative n extra) := by
  intro cs a left h
  have hend := (still_realNumber negative n extra).consumes
  cases cs with
  | nil => exact Nat.le_of_eq (congrArg List.length (numberTail_nil h))
  | cons c rest =>
    unfold numberTail at h
    simp only at h
    split_ifs at h
    · exact (consumes_fraction _ _ _).behind h
    · exact (consumes_exponent _ _ _).behind h
    · simp only [Except.ok.injEq, Prod.mk.injEq] at h
      exact Nat.le_of_eq (congrArg List.length h.2.symm)
    · exact hend _ _ _ h

theorem consumes_number (negative : Bool) : Consumes (number negative) := by
  intro cs a left h
  cases cs with
  | nil => exact nomatch h
  | cons c rest =>
    unfold number at h
    simp only at h
    split_ifs at h
    · exact (consumes_numberTail _ _ _).behind h
    · exact consumes_of_digits (f := fun digits => numberTail negative
        (accumulate 0x10000000000000000 0 digits).1
        (accumulate 0x10000000000000000 0 digits).2.length)
        (fun digits => consumes_numberTail _ _ _) (c :: rest) a left h

/-! ### Strings and scalars -/

theorem length_of_stringTail {read cs out left : List Char}
    (h : stringTail read cs = .ok (out, left)) : left.length ≤ cs.length := by
  fun_induction stringTail read cs
  case case2 =>
    simp only [Except.ok.injEq, Prod.mk.injEq] at h
    obtain ⟨-, rfl⟩ := h
    exact Nat.le_succ _
  case case4 ih | case13 ih | case16 ih | case19 ih =>
    have hleft := ih h
    simp only [List.length_cons]
    omega
  all_goals cases h

theorem consumes_string : Consumes string := by
  intro cs s left h
  obtain ⟨out, hcs, -⟩ := map_eq_ok.mp h
  exact length_of_stringTail hcs

theorem consumes_scalar : Consumes scalar := by
  intro cs a left h
  cases cs with
  | nil => exact nomatch h
  | cons c rest =>
    unfold scalar at h
    simp only at h
    split_ifs at h
    · exact (consumes_word _ _).behind h
    · exact (consumes_word _ _).behind h
    · exact (consumes_word _ _).behind h
    · exact ((consumes_number true).map _).behind h
    · exact (consumes_number false).map _ _ a left h
    · exact (consumes_string.map _).behind h

/-! ### Items -/

theorem length_skipBlanks_le (cs : List Char) : (skipBlanks cs).length ≤ cs.length := by
  induction cs with
  | nil => exact Nat.le_refl _
  | cons c cs ih =>
    rw [skipBlanks]
    split_ifs
    · exact Nat.le_trans ih (Nat.le_succ _)
    · exact Nat.le_refl _

/-- Only the first item is reached without passing a character. -/
theorem length_of_nextItem {first another : Bool} {cs rest : List Char}
    (h : nextItem first cs = .ok (another, rest)) :
    rest.length + (if first then 0 else 1) ≤ cs.length := by
  have hblanks := length_skipBlanks_le cs
  unfold nextItem at h
  cases hcs : skipBlanks cs with
  | nil => simp [hcs] at h
  | cons c tail =>
    simp only [hcs, List.length_cons] at h hblanks
    split_ifs at h with hclose hfirst hcomma
    · simp only [Except.ok.injEq, Prod.mk.injEq] at h
      obtain ⟨-, rfl⟩ := h
      split_ifs <;> omega
    · simp only [Except.ok.injEq, Prod.mk.injEq] at h
      obtain ⟨-, rfl⟩ := h
      simpa [hfirst] using hblanks
    · have htail := length_skipBlanks_le tail
      cases hmore : skipBlanks tail with
      | nil => simp [hmore] at h
      | cons d more =>
        simp only [hmore] at h htail
        split_ifs at h
        simp only [Except.ok.injEq, Prod.mk.injEq] at h
        obtain ⟨-, rfl⟩ := h
        rw [if_neg hfirst]
        omega

end WidgetForge.Json
