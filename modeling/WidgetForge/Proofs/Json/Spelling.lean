import WidgetForge.Proofs.Json.Nesting
import WidgetForge.Proofs.Json.Numerals

/-!
# How scalars are spelled

A word has one spelling and a number has its numerals. A string may be spelled in many ways: any
character but the quote, the backslash and the control characters stands for itself, and any
character at all may stand behind a backslash, by a letter or by the four digits of each of its
halves. The reader of scalars takes just these spellings.
-/

namespace WidgetForge.Json

open Text

/-! ### Blanks -/

/-- Blanks and nothing else. -/
def Blanks (cs : List Char) : Prop := ∀ c ∈ cs, isBlank c = true

theorem Blanks.nil : Blanks [] := List.forall_mem_nil _

theorem Blanks.append {before after : List Char} (hbefore : Blanks before) (hafter : Blanks after) :
    Blanks (before ++ after) := fun c hc => (List.mem_append.mp hc).elim (hbefore c) (hafter c)

/-- Blanks are passed over. -/
theorem Blanks.skip {before : List Char} (h : Blanks before) (rest : List Char) :
    skipBlanks (before ++ rest) = skipBlanks rest := by
  induction before with
  | nil => rfl
  | cons c before ih =>
    obtain ⟨hc, hbefore⟩ := List.forall_mem_cons.mp h
    rw [List.cons_append, skipBlanks, if_pos hc, ih hbefore]

/-- What stands behind the blanks at the front of a text. -/
theorem exists_blanks (cs : List Char) :
    ∃ before, Blanks before ∧ cs = before ++ skipBlanks cs := by
  induction cs with
  | nil => exact ⟨[], .nil, rfl⟩
  | cons c cs ih =>
    obtain ⟨before, hbefore, hcs⟩ := ih
    rw [skipBlanks]
    split_ifs with hc
    · exact ⟨c :: before, List.forall_mem_cons.mpr ⟨hc, hbefore⟩, congrArg (c :: ·) hcs⟩
    · exact ⟨[], .nil, rfl⟩

theorem skipBlanks_eq_nil {cs : List Char} : skipBlanks cs = [] ↔ Blanks cs := by
  constructor
  · intro h
    obtain ⟨before, hbefore, hcs⟩ := exists_blanks cs
    rwa [hcs, h, List.append_nil]
  · intro h
    have hskip := h.skip []
    rwa [List.append_nil] at hskip

theorem isBlank_of_skipBlanks {cs rest : List Char} {c : Char} (h : skipBlanks cs = c :: rest) :
    isBlank c = false := by
  induction cs with
  | nil => exact nomatch h
  | cons d cs ih =>
    rw [skipBlanks] at h
    split_ifs at h with hd
    · exact ih h
    · obtain ⟨rfl, -⟩ := List.cons.inj h
      exact Bool.eq_false_iff.mpr hd

theorem skipBlanks_eq_cons {cs rest : List Char} {c : Char} :
    skipBlanks cs = c :: rest ↔
      isBlank c = false ∧ ∃ before, Blanks before ∧ cs = before ++ c :: rest := by
  constructor
  · intro h
    obtain ⟨before, hbefore, hcs⟩ := exists_blanks cs
    exact ⟨isBlank_of_skipBlanks h, before, hbefore, h ▸ hcs⟩
  · rintro ⟨hc, before, hbefore, rfl⟩
    rw [hbefore.skip, skipBlanks_cons hc]

/-- No number goes on into blanks. -/
theorem Blanks.stops {before rest : List Char} (h : Blanks before) (hrest : Stops rest) :
    Stops (before ++ rest) := by
  cases before with
  | nil => exact hrest
  | cons c before =>
    have hc := h c List.mem_cons_self
    simp only [isBlank, Bool.or_eq_true, decide_eq_true_eq] at hc
    rcases hc with ((rfl | rfl) | rfl) | rfl <;> exact Stops.cons _ (by decide)

/-! ### Strings -/

/-- Ways to spell characters between quotes. -/
inductive SpellsChars : List Char → List Char → Prop where
  /-- Nothing is spelled as nothing. -/
  | nil : SpellsChars [] []
  /-- A character stands for itself. -/
  | plain {c : Char} {cs body : List Char} (quote : c ≠ '"') (backslash : c ≠ '\\')
    (control : ¬ c.toNat < 32) (others : SpellsChars cs body) : SpellsChars (c :: cs) (c :: body)
  /-- A letter behind a backslash stands for a character. -/
  | short {e c : Char} {cs body : List Char} (escape : shortEscape e = some c)
    (others : SpellsChars cs body) : SpellsChars (c :: cs) ('\\' :: e :: body)
  /-- Four digits stand for a character. -/
  | digits {a b c d : Char} {n : Nat} {cs body : List Char}
    (quad : Hexadecimal.quad a b c d = some n) (low : isLow n = false) (high : isHigh n = false)
    (others : SpellsChars cs body) :
    SpellsChars (Char.ofNat n :: cs) ('\\' :: 'u' :: a :: b :: c :: d :: body)
  /-- Twice four digits stand for a character if they are the halves of a surrogate pair. -/
  | pair {a b c d a' b' c' d' : Char} {n m : Nat} {cs body : List Char}
    (quad : Hexadecimal.quad a b c d = some n) (low : isLow n = false) (high : isHigh n = true)
    (quad' : Hexadecimal.quad a' b' c' d' = some m) (low' : isLow m = true)
    (others : SpellsChars cs body) :
    SpellsChars (joinSurrogates n m :: cs)
      ('\\' :: 'u' :: a :: b :: c :: d :: '\\' :: 'u' :: a' :: b' :: c' :: d' :: body)

/-- Characters that are spelled between quotes are read, up to the closing quote. -/
theorem stringTail_of_spells {cs body : List Char} (h : SpellsChars cs body)
    (read rest : List Char) :
    stringTail read (body ++ '"' :: rest) = .ok (read.reverse ++ cs, rest) := by
  induction h generalizing read with
  | nil => simp [stringTail_quote]
  | plain quote backslash control _ ih => simp [stringTail_plain quote backslash control, ih]
  | short escape _ ih => simp [stringTail_short escape, ih]
  | digits quad low high _ ih => simp [stringTail_unicode quad low high, ih]
  | pair quad low high quad' low' _ ih => simp [stringTail_pair quad low high quad' low', ih]

/-- What is read behind an opening quote spells characters, up to the closing quote. The cases of
`stringTail` in which it does not end in a fault are the constructors of `SpellsChars`. -/
theorem exists_spells_of_stringTail {read cs out left : List Char}
    (h : stringTail read cs = .ok (out, left)) :
    ∃ inner body, SpellsChars inner body ∧ cs = body ++ '"' :: left ∧
      out = read.reverse ++ inner := by
  fun_induction stringTail read cs
  case case2 =>
    obtain ⟨rfl, rfl⟩ := Prod.mk.inj (Except.ok.inj h)
    exact ⟨[], [], .nil, rfl, by simp⟩
  case case4 hescape _ ih =>
    obtain ⟨inner, body, hbody, rfl, rfl⟩ := ih h
    exact ⟨_ :: inner, _ :: _ :: body, .short hescape hbody, rfl, by simp⟩
  case case13 hescape hu _ _ _ _ _ hquad hlow hhigh _ hx _ hy _ _ _ _ _ _ hquad' hlow' _ ih =>
    obtain rfl := not_not.mp hu
    obtain rfl := not_not.mp hx
    obtain rfl := not_not.mp hy
    obtain ⟨inner, body, hbody, rfl, rfl⟩ := ih h
    exact ⟨_ :: inner, _, .pair hquad (Bool.eq_false_iff.mpr hlow) hhigh hquad' hlow' hbody, rfl,
      by simp⟩
  case case16 hescape hu _ _ _ _ _ _ hquad hlow hhigh _ ih =>
    obtain rfl := not_not.mp hu
    obtain ⟨inner, body, hbody, rfl, rfl⟩ := ih h
    exact ⟨_ :: inner, _,
      .digits hquad (Bool.eq_false_iff.mpr hlow) (Bool.eq_false_iff.mpr hhigh) hbody, rfl, by simp⟩
  case case19 quote backslash control ih =>
    obtain ⟨inner, body, hbody, rfl, rfl⟩ := ih h
    exact ⟨_ :: inner, _ :: body, .plain quote backslash control hbody, rfl, by simp⟩
  all_goals cases h

/-- The text between the quotes of a string spells it. -/
def SpellsString (s : String) (body : List Char) : Prop := SpellsChars s.toList body

/-- **A string is read as what it spells.** -/
theorem string_eq_ok {s : String} {cs left : List Char} :
    string cs = .ok (s, left) ↔ ∃ body, SpellsString s body ∧ cs = body ++ '"' :: left := by
  refine map_eq_ok.trans ⟨?_, ?_⟩
  · rintro ⟨out, hread, rfl⟩
    obtain ⟨inner, body, hbody, rfl, rfl⟩ := exists_spells_of_stringTail hread
    exact ⟨body, by simpa [SpellsString] using hbody, rfl⟩
  · rintro ⟨body, hbody, rfl⟩
    exact ⟨s.toList, stringTail_of_spells hbody [] left, by simp⟩

/-! ### Scalars -/

/-- Ways to spell a value without brackets. -/
inductive SpellsScalar : Value → List Char → Prop where
  /-- The word for no value. -/
  | null : SpellsScalar .null "null".toList
  /-- The words for truth values. -/
  | bool (b : Bool) : SpellsScalar (.bool b) (if b then "true" else "false").toList
  /-- A numeral for a number. -/
  | number {m : Numeral} {n : Number} (proper : m.Proper) (number : m.number? = some n) :
    SpellsScalar (.number n) m.text
  /-- A string in quotes. -/
  | string {s : String} {body : List Char} (spells : SpellsString s body) :
    SpellsScalar (.string s) ('"' :: (body ++ ['"']))

theorem word_append {α : Type} (value : α) (letters rest : List Char) :
    word value letters (letters ++ rest) = .ok (value, rest) := by
  induction letters with
  | nil => rfl
  | cons l letters ih => rw [List.cons_append, word, if_pos rfl, ih]

theorem word_eq_ok {α : Type} {a b : α} {letters cs left : List Char} :
    word a letters cs = .ok (b, left) ↔ b = a ∧ cs = letters ++ left := by
  constructor
  · intro h
    refine ⟨eq_of_word h, ?_⟩
    induction letters generalizing cs with
    | nil => exact (Prod.mk.inj (Except.ok.inj h)).2
    | cons l letters ih =>
      cases cs with
      | nil => exact nomatch h
      | cons c cs =>
        rw [word] at h
        split_ifs at h with hc
        rw [List.cons_append, ← ih h, hc]
  · rintro ⟨rfl, rfl⟩
    exact word_append b letters left

/-- The digits of a numeral come first, behind its sign. -/
theorem scalar_of_unsigned {m : Numeral} (h : m.Proper) (rest : List Char) :
    scalar (m.unsigned ++ rest) =
      (number false (m.unsigned ++ rest)).map fun (n, rest) => (.number n, rest) := by
  obtain ⟨c, digits, hwhole⟩ := List.exists_cons_of_ne_nil h.whole.1
  have hdigit : c.isDigit = true := h.whole.2 c (hwhole ▸ List.mem_cons_self)
  rw [Numeral.unsigned, hwhole]
  exact scalar_digit hdigit _

/-- What is spelled as a scalar is read as it. -/
theorem scalar_of_spells {v : Value} {body rest : List Char} (h : SpellsScalar v body)
    (hrest : Stops rest) : scalar (body ++ rest) = .ok (v, rest) := by
  cases h with
  | null => exact word_append _ "ull".toList rest
  | bool b =>
    cases b with
    | true => exact word_append _ "rue".toList rest
    | false => exact word_append _ "alse".toList rest
  | @number m n proper number =>
    have hread := number_of_proper proper number hrest
    unfold Numeral.text
    cases hsign : m.negative with
    | true =>
      rw [hsign] at hread
      rw [if_pos rfl, List.cons_append, scalar_minus, hread]
      rfl
    | false =>
      rw [hsign] at hread
      rw [if_neg Bool.false_ne_true, scalar_of_unsigned proper, hread]
      rfl
  | @string s body spells =>
    rw [List.cons_append, List.append_assoc]
    exact scalar_string (string_eq_ok.mpr ⟨body, spells, rfl⟩)

/-- What is read as a number behind its sign is a numeral that is spelled with it. -/
theorem exists_spells_of_number {negative : Bool} {v : Value} {cs left : List Char}
    (h : (number negative cs).map (fun (n, rest) => (Value.number n, rest)) = .ok (v, left)) :
    ∃ body, SpellsScalar v body ∧ (if negative then '-' :: cs else cs) = body ++ left := by
  obtain ⟨n, hread, rfl⟩ := (map_eq_ok (g := Value.number)).mp h
  obtain ⟨m, proper, rfl, number, rfl⟩ := exists_number hread
  refine ⟨m.text, .number proper number, ?_⟩
  unfold Numeral.text
  split_ifs <;> rfl

/-- **What is read as a scalar is spelled as it.** -/
theorem exists_spells_of_scalar {v : Value} {cs left : List Char}
    (h : scalar cs = .ok (v, left)) : ∃ body, SpellsScalar v body ∧ cs = body ++ left := by
  cases cs with
  | nil => exact nomatch h
  | cons c rest =>
    unfold scalar at h
    simp only at h
    split_ifs at h with hn ht hf hminus hdigit hquote
    · obtain ⟨rfl, rfl⟩ := word_eq_ok.mp h
      exact ⟨_, .null, by rw [hn]; rfl⟩
    · obtain ⟨rfl, rfl⟩ := word_eq_ok.mp h
      exact ⟨_, .bool true, by rw [ht]; rfl⟩
    · obtain ⟨rfl, rfl⟩ := word_eq_ok.mp h
      exact ⟨_, .bool false, by rw [hf]; rfl⟩
    · rw [hminus]
      exact exists_spells_of_number h
    · exact exists_spells_of_number h
    · obtain ⟨s, hread, rfl⟩ := (map_eq_ok (g := Value.string)).mp h
      obtain ⟨body, hbody, rfl⟩ := string_eq_ok.mp hread
      exact ⟨_, .string hbody, by rw [hquote, List.cons_append, List.append_assoc]; rfl⟩

/-- A scalar is spelled with a character of its own at the front. -/
theorem opens_of_spellsScalar {v : Value} {body : List Char} (h : SpellsScalar v body) :
    Opens body := by
  have hread := scalar_of_spells h Stops.nil
  rw [List.append_nil] at hread
  obtain ⟨c, rest, rfl, hblank, -⟩ := scalar_head hread
  refine ⟨c, rest, rfl, hblank, ?_⟩
  rintro rfl
  exact nomatch hread

end WidgetForge.Json
