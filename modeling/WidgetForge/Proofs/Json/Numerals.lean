import WidgetForge.Proofs.Json.Numbers

/-!
# Numerals

A numeral is a sign, digits that do not begin with a zero unless they are one, and perhaps a point
with digits and an exponent. This is its form (`Numeral.Proper`) and its text; which number it
stands for is a matter of its parts alone (`Numeral.number?`), and some numerals stand for none,
because no double is large enough. The reader of numbers finds just the numerals that stand for a
number, and where the text goes on with something else it takes all of them.
-/

namespace WidgetForge.Json

/-! ### The form of numerals -/

/-- Digits, one at least. -/
def Digits (cs : List Char) : Prop := cs ≠ [] ∧ ∀ c ∈ cs, c.isDigit = true

/-- An exponent behind its letter. -/
structure Exponent where
  /-- The letter. -/
  letter : Char
  /-- Its sign, if it has one. -/
  sign : Option Char
  /-- Its digits. -/
  digits : List Char

/-- The form of an exponent. -/
structure Exponent.Proper (x : Exponent) : Prop where
  letter : x.letter = 'e' ∨ x.letter = 'E'
  sign : ∀ c, x.sign = some c → c = '+' ∨ c = '-'
  digits : Digits x.digits

/-- The text of an exponent. -/
def Exponent.text (x : Exponent) : List Char := x.letter :: (x.sign.toList ++ x.digits)

/-- A numeral. -/
structure Numeral where
  /-- Whether it has a minus. -/
  negative : Bool
  /-- The digits before the point. -/
  whole : List Char
  /-- The digits behind the point, if there is one. -/
  fraction : Option (List Char)
  /-- Its exponent, if it has one. -/
  exponent : Option Exponent

namespace Numeral

/-- The form of a numeral. -/
structure Proper (m : Numeral) : Prop where
  whole : Digits m.whole
  zero : m.whole.head? = some '0' → m.whole = ['0']
  fraction : ∀ ds, m.fraction = some ds → Digits ds
  exponent : ∀ x, m.exponent = some x → x.Proper

/-- The text of an exponent that may be missing. -/
def exponentText (x : Option Exponent) : List Char := x.elim [] Exponent.text

/-- The text of digits behind a point that may be missing. -/
def fractionText (ds : Option (List Char)) : List Char := ds.elim [] ('.' :: ·)

/-- The text behind the sign. -/
def unsigned (m : Numeral) : List Char :=
  m.whole ++ (fractionText m.fraction ++ exponentText m.exponent)

/-- The text of a numeral. -/
def text (m : Numeral) : List Char := if m.negative then '-' :: m.unsigned else m.unsigned

end Numeral

/-! ### What numerals stand for -/

/-- The double for a sign, leading digits and a power of ten, if there is one. -/
def real? (negative : Bool) (n : Nat) (e : Int) : Option Number :=
  (scaleReal (e.natAbs / 308 + 1) (Float.ofNat n) e).map fun x =>
    .real (if negative then -x else x)

/-- The double for a sign, leading digits, a power of ten and the digits of an exponent, which makes
the number smaller if it is negative. An exponent that is too large for any double still leaves zero
as it is, and if it is negative it makes zero of all digits. -/
def powered? (negative : Bool) (n : Nat) (e : Int) (down : Bool) (digits : List Char) :
    Option Number :=
  match accumulate 0x80000000 0 digits with
  | (k, []) => real? negative n (if down then e - k else e + k)
  | (_, _ :: _) =>
    if n ≠ 0 && !down then none else some (.real (if negative then -0.0 else 0.0))

/-- The double for a sign, leading digits, a power of ten and perhaps an exponent. -/
def scaled? (negative : Bool) (n : Nat) (e : Int) : Option Exponent → Option Number
  | none => real? negative n e
  | some x => powered? negative n e (x.sign = some '-') x.digits

/-- The number for a sign, leading digits, of which `extra` more have been left out, digits behind a
point and an exponent. It is an integer if there is neither a point nor an exponent and all digits
are there. -/
def completed? (negative : Bool) (n extra : Nat) :
    Option (List Char) → Option Exponent → Option Number
  | none, none => if extra = 0 then some (wholeNumber negative n) else real? negative n extra
  | none, some x => scaled? negative n extra (some x)
  | some ds, x =>
    let (k, rest) := accumulate 0x10000000000000000 n ds
    scaled? negative k (extra - (ds.length - rest.length : Nat)) x

/-- The number that a numeral stands for, if there is one. -/
def Numeral.number? (m : Numeral) : Option Number :=
  let (n, extra) := accumulate 0x10000000000000000 0 m.whole
  completed? m.negative n extra.length m.fraction m.exponent

/-! ### Readers -/

section

variable {negative : Bool} {n : Nat} {e : Int} {a : Number} {cs left : List Char}

theorem realNumber_eq_ok :
    realNumber negative n e cs = .ok (a, left) ↔ real? negative n e = some a ∧ left = cs := by
  unfold realNumber real?
  cases scaleReal (e.natAbs / 308 + 1) (Float.ofNat n) e <;> simp [eq_comm]

theorem exponentTail_eq_ok {down : Bool} {digits : List Char} :
    exponentTail negative n e down digits cs = .ok (a, left) ↔
      digits ≠ [] ∧ powered? negative n e down digits = some a ∧ left = cs := by
  unfold exponentTail powered?
  cases digits with
  | nil => simp
  | cons d ds =>
    rcases accumulate 0x80000000 0 (d :: ds) with ⟨k, _ | ⟨c, extra⟩⟩
    · simp [realNumber_eq_ok]
    · cases n ≠ 0 && !down <;> simp [eq_comm]

/-- Digits are read up to what follows them. -/
theorem takeWhile_digits {ds : List Char} (hds : ∀ c ∈ ds, c.isDigit = true)
    (hstop : ∀ c, left.head? = some c → c.isDigit = false) :
    (ds ++ left).takeWhile Char.isDigit = ds ∧ (ds ++ left).dropWhile Char.isDigit = left := by
  induction ds with
  | nil =>
    cases left with
    | nil => exact ⟨rfl, rfl⟩
    | cons c left => simp [hstop c rfl]
  | cons d ds ih =>
    obtain ⟨htake, hdrop⟩ := ih fun c hc => hds c (List.mem_cons_of_mem d hc)
    simp [hds d List.mem_cons_self, htake, hdrop]

/-- What is read as digits are digits. -/
theorem digits_takeWhile (h : cs.takeWhile Char.isDigit ≠ []) :
    Digits (cs.takeWhile Char.isDigit) :=
  ⟨h, fun _ hc => List.mem_takeWhile_imp hc⟩

theorem exponentSign_append_digits {x : Exponent} (h : x.Proper) (more : List Char) :
    exponentSign (x.sign.toList ++ x.digits ++ more) =
      (decide (x.sign = some '-'), x.digits ++ more) := by
  cases hsign : x.sign with
  | some c => rcases h.sign c hsign with rfl | rfl <;> rfl
  | none =>
    obtain ⟨hne, hdigits⟩ := h.digits
    obtain ⟨d, ds, hds⟩ := List.exists_cons_of_ne_nil hne
    have hdigit : d.isDigit = true := hdigits d (hds ▸ List.mem_cons_self)
    have hplus : d ≠ '+' := by rintro rfl; exact nomatch hdigit
    have hminus : d ≠ '-' := by rintro rfl; exact nomatch hdigit
    simp [hds, exponentSign, hplus, hminus]

/-- An exponent is read behind its letter. -/
theorem exponent_of_proper {x : Exponent} (h : x.Proper) (hstop : Stops left)
    (hnumber : scaled? negative n e (some x) = some a) :
    exponent negative n e (x.sign.toList ++ x.digits ++ left) = .ok (a, left) := by
  obtain ⟨htake, hdrop⟩ := takeWhile_digits h.digits.2 fun c hc => (hstop c hc).1
  rw [exponent, exponentSign_append_digits h]
  simp only [exponentDigits, htake, hdrop]
  exact exponentTail_eq_ok.mpr ⟨h.digits.1, hnumber, rfl⟩

/-- What is read behind the letter of an exponent is the rest of an exponent. -/
theorem exists_exponent {letter : Char} (hletter : letter = 'e' ∨ letter = 'E')
    (h : exponent negative n e cs = .ok (a, left)) :
    ∃ x : Exponent, x.Proper ∧ letter :: cs = x.text ++ left ∧
      scaled? negative n e (some x) = some a := by
  -- whatever the sign is, the digits end where the exponent does
  have hdigits {sign : Option Char} (hsign : ∀ c, sign = some c → c = '+' ∨ c = '-')
      {ds : List Char} (hcs : cs = sign.toList ++ ds)
      (hread : exponentDigits negative n e (sign = some '-') ds = .ok (a, left)) :
      ∃ x : Exponent, x.Proper ∧ letter :: cs = x.text ++ left ∧
        scaled? negative n e (some x) = some a := by
    obtain ⟨hne, hnumber, rfl⟩ := exponentTail_eq_ok.mp hread
    refine ⟨⟨letter, sign, ds.takeWhile Char.isDigit⟩, ⟨hletter, hsign, digits_takeWhile hne⟩, ?_,
      hnumber⟩
    simp [Exponent.text, hcs, List.takeWhile_append_dropWhile]
  rw [exponent] at h
  cases cs with
  | nil => exact nomatch h
  | cons c rest =>
    by_cases hplus : c = '+'
    · subst hplus
      exact @hdigits (some '+') (by rintro _ ⟨⟩; exact .inl rfl) rest rfl h
    · by_cases hminus : c = '-'
      · subst hminus
        exact @hdigits (some '-') (by rintro _ ⟨⟩; exact .inr rfl) rest rfl h
      · rw [exponentSign, if_neg hplus, if_neg hminus] at h
        exact @hdigits none (by rintro _ ⟨⟩) (c :: rest) rfl h

/-- The exponent that may come next ends where the numeral does. -/
theorem exponentOrEnd_of_proper {x : Option Exponent} (h : ∀ y, x = some y → y.Proper)
    (hstop : Stops left) (hnumber : scaled? negative n e x = some a) :
    exponentOrEnd negative n e (Numeral.exponentText x ++ left) = .ok (a, left) := by
  cases x with
  | none =>
    have hend : realNumber negative n e left = .ok (a, left) :=
      realNumber_eq_ok.mpr ⟨hnumber, rfl⟩
    cases left with
    | nil => exact hend
    | cons c left =>
      obtain ⟨-, -, he, hE⟩ := hstop c rfl
      simpa [exponentOrEnd, Numeral.exponentText, he, hE] using hend
  | some x =>
    have hx := h x rfl
    have hletter : (x.letter = 'e' || x.letter = 'E') = true := by simpa using hx.letter
    simp only [exponentOrEnd, Numeral.exponentText, Option.elim_some, Exponent.text,
      List.cons_append, hletter, if_true]
    exact exponent_of_proper hx hstop hnumber

theorem exists_exponentOrEnd (h : exponentOrEnd negative n e cs = .ok (a, left)) :
    ∃ x : Option Exponent, (∀ y, x = some y → y.Proper) ∧ cs = Numeral.exponentText x ++ left ∧
      scaled? negative n e x = some a := by
  have hend (h : realNumber negative n e cs = .ok (a, left)) :
      ∃ x : Option Exponent, (∀ y, x = some y → y.Proper) ∧
        cs = Numeral.exponentText x ++ left ∧ scaled? negative n e x = some a := by
    obtain ⟨hnumber, rfl⟩ := realNumber_eq_ok.mp h
    exact ⟨none, nofun, rfl, hnumber⟩
  unfold exponentOrEnd at h
  cases cs with
  | nil => exact hend h
  | cons c rest =>
    simp only [Bool.or_eq_true, decide_eq_true_eq] at h
    split_ifs at h with hletter
    · obtain ⟨x, hx, htext, hnumber⟩ := exists_exponent hletter h
      refine ⟨some x, ?_, htext, hnumber⟩
      rintro _ ⟨⟩
      exact hx
    · exact hend h

/-- An exponent and what follows the numeral begin with no digit. -/
theorem head_exponentText {x : Option Exponent} (hx : ∀ y, x = some y → y.Proper)
    (hstop : Stops left) :
    ∀ c, (Numeral.exponentText x ++ left).head? = some c → c.isDigit = false := by
  cases x with
  | none => exact fun c hc => (hstop c hc).1
  | some x =>
    rintro _ ⟨⟩
    rcases (hx x rfl).letter with hletter | hletter <;> rw [hletter] <;> rfl

/-- What follows the digits before the point begins with no digit. -/
theorem head_fractionText {fraction : Option (List Char)} {x : Option Exponent}
    (hx : ∀ y, x = some y → y.Proper) (hstop : Stops left) :
    ∀ c, (Numeral.fractionText fraction ++ (Numeral.exponentText x ++ left)).head? = some c →
      c.isDigit = false := by
  cases fraction with
  | none => exact head_exponentText hx hstop
  | some ds =>
    rintro _ ⟨⟩
    rfl

theorem fraction_of_proper {ds : List Char} {x : Option Exponent} (hds : Digits ds)
    (hx : ∀ y, x = some y → y.Proper) (hstop : Stops left) {extra : Nat}
    (hnumber : completed? negative n extra (some ds) x = some a) :
    fraction negative n extra (ds ++ (Numeral.exponentText x ++ left)) = .ok (a, left) := by
  obtain ⟨htake, hdrop⟩ := takeWhile_digits hds.2 (head_exponentText hx hstop)
  have hempty : ds.isEmpty = false := by simpa using hds.1
  simp only [fraction, fractionTail, htake, hdrop, hempty, Bool.false_eq_true, if_false]
  exact exponentOrEnd_of_proper hx hstop hnumber

/-- What follows the digits before the point is read to the end of the numeral. -/
theorem numberTail_of_proper {extra : Nat} {fraction : Option (List Char)} {x : Option Exponent}
    (hfraction : ∀ ds, fraction = some ds → Digits ds) (hx : ∀ y, x = some y → y.Proper)
    (hstop : Stops left) (hnumber : completed? negative n extra fraction x = some a) :
    numberTail negative n extra
      (Numeral.fractionText fraction ++ (Numeral.exponentText x ++ left)) = .ok (a, left) := by
  match fraction, x with
  | some ds, x => exact fraction_of_proper (hfraction ds rfl) hx hstop hnumber
  | none, some x =>
    have hpoint : x.letter ≠ '.' := by
      rcases (hx x rfl).letter with hletter | hletter <;> rw [hletter] <;> decide
    have hletter : (x.letter = 'e' || x.letter = 'E') = true := by simpa using (hx x rfl).letter
    have hread := exponent_of_proper (hx x rfl) hstop hnumber
    simpa only [numberTail, Numeral.fractionText, Numeral.exponentText, Exponent.text,
      Option.elim_none, Option.elim_some, List.nil_append, List.cons_append, hpoint, hletter,
      if_false, if_true] using hread
  | none, none =>
    have hend : (if extra = 0 then .ok (wholeNumber negative n, left)
        else realNumber negative n extra left) = .ok (a, left) := by
      simp only [completed?] at hnumber
      split_ifs at hnumber ⊢
      · rw [Option.some.inj hnumber]
      · exact realNumber_eq_ok.mpr ⟨hnumber, rfl⟩
    cases left with
    | nil => exact hend
    | cons c left =>
      obtain ⟨-, hpoint, he, hE⟩ := hstop c rfl
      simpa [numberTail, Numeral.fractionText, Numeral.exponentText, hpoint, he, hE] using hend

theorem exists_fraction {extra : Nat} (h : fraction negative n extra cs = .ok (a, left)) :
    ∃ ds x, Digits ds ∧ (∀ y, x = some y → y.Proper) ∧
      cs = ds ++ (Numeral.exponentText x ++ left) ∧
      completed? negative n extra (some ds) x = some a := by
  unfold fraction fractionTail at h
  split_ifs at h with hempty
  obtain ⟨x, hx, htext, hnumber⟩ := exists_exponentOrEnd h
  refine ⟨_, x, digits_takeWhile (by simpa using hempty), hx, ?_, hnumber⟩
  rw [← htext, List.takeWhile_append_dropWhile]

theorem exists_numberTail {extra : Nat} (h : numberTail negative n extra cs = .ok (a, left)) :
    ∃ fraction x, (∀ ds, fraction = some ds → Digits ds) ∧ (∀ y, x = some y → y.Proper) ∧
      cs = Numeral.fractionText fraction ++ (Numeral.exponentText x ++ left) ∧
      completed? negative n extra fraction x = some a := by
  have hend (h : (if extra = 0 then .ok (wholeNumber negative n, cs)
      else realNumber negative n extra cs) = .ok (a, left)) :
      cs = left ∧ completed? negative n extra none none = some a := by
    simp only [completed?]
    split_ifs at h ⊢
    · obtain ⟨rfl, rfl⟩ := Prod.mk.inj (Except.ok.inj h)
      exact ⟨rfl, rfl⟩
    · obtain ⟨hnumber, rfl⟩ := realNumber_eq_ok.mp h
      exact ⟨rfl, hnumber⟩
  unfold numberTail at h
  cases cs with
  | nil =>
    obtain ⟨rfl, hnumber⟩ := hend h
    exact ⟨none, none, nofun, nofun, rfl, hnumber⟩
  | cons c rest =>
    simp only [Bool.or_eq_true, decide_eq_true_eq] at h
    by_cases hpoint : c = '.'
    · rw [if_pos hpoint] at h
      obtain ⟨ds, x, hds, hx, rfl, hnumber⟩ := exists_fraction h
      refine ⟨some ds, x, ?_, hx, by rw [hpoint]; rfl, hnumber⟩
      rintro _ ⟨⟩
      exact hds
    · rw [if_neg hpoint] at h
      by_cases hletter : c = 'e' ∨ c = 'E'
      · rw [if_pos hletter] at h
        obtain ⟨x, hx, htext, hnumber⟩ := exists_exponent hletter h
        refine ⟨none, some x, nofun, ?_, htext, hnumber⟩
        rintro _ ⟨⟩
        exact hx
      · rw [if_neg hletter] at h
        obtain ⟨rfl, hnumber⟩ := hend h
        exact ⟨none, none, nofun, nofun, rfl, hnumber⟩

/-- **A numeral that stands for a number is read as this number**, whatever follows it. -/
theorem number_of_proper {m : Numeral} (h : m.Proper) (hnumber : m.number? = some a)
    (hstop : Stops left) : number m.negative (m.unsigned ++ left) = .ok (a, left) := by
  have htail := numberTail_of_proper h.fraction h.exponent hstop hnumber
  have hhead := @head_fractionText _ m.fraction _ h.exponent hstop
  obtain ⟨htake, hdrop⟩ := takeWhile_digits h.whole.2 hhead
  obtain ⟨c, ds, hwhole⟩ := List.exists_cons_of_ne_nil h.whole.1
  have hdigit : c.isDigit = true := h.whole.2 c (hwhole ▸ List.mem_cons_self)
  rw [Numeral.unsigned, List.append_assoc, List.append_assoc]
  generalize Numeral.fractionText m.fraction ++ (Numeral.exponentText m.exponent ++ left) = rest
    at htail hhead htake hdrop ⊢
  by_cases hzero : c = '0'
  · have hds : m.whole = ['0'] := h.zero (by rw [hwhole, hzero]; rfl)
    have hnext : (rest.head?.any Char.isDigit) = false := by
      cases rest with
      | nil => rfl
      | cons d rest => simpa using hhead d rfl
    have hvalue : accumulate 0x10000000000000000 0 ['0'] = (0, []) := by decide
    rw [hds, hvalue] at htail
    rw [hds]
    simpa [number, hnext] using htail
  · rw [hwhole, List.cons_append] at htake hdrop ⊢
    simp only [number, hzero, hdigit, if_false, if_true, htake, hdrop]
    rwa [hwhole] at htail

/-- **What is read as a number is a numeral that stands for it.** -/
theorem exists_number (h : number negative cs = .ok (a, left)) :
    ∃ m : Numeral, m.Proper ∧ m.negative = negative ∧ m.number? = some a ∧
      cs = m.unsigned ++ left := by
  unfold number at h
  cases cs with
  | nil => exact nomatch h
  | cons c rest =>
    simp only at h
    split_ifs at h with hzero hnext hdigit
    · obtain ⟨fraction, x, hfraction, hx, rfl, hnumber⟩ := exists_numberTail h
      have hwhole : Digits ['0'] := ⟨by decide, List.forall_mem_singleton.mpr rfl⟩
      refine ⟨⟨negative, ['0'], fraction, x⟩, ⟨hwhole, fun _ => rfl, hfraction, hx⟩, rfl, hnumber,
        ?_⟩
      rw [hzero, Numeral.unsigned, List.append_assoc, List.append_assoc]
      rfl
    · obtain ⟨fraction, x, hfraction, hx, htext, hnumber⟩ := exists_numberTail h
      have hwhole : Digits ((c :: rest).takeWhile Char.isDigit) :=
        digits_takeWhile (by simp [hdigit])
      have hzero : ((c :: rest).takeWhile Char.isDigit).head? ≠ some '0' := by simp [hdigit, hzero]
      refine ⟨⟨negative, (c :: rest).takeWhile Char.isDigit, fraction, x⟩,
        ⟨hwhole, fun hhead => absurd hhead hzero, hfraction, hx⟩, rfl, hnumber, ?_⟩
      rw [Numeral.unsigned, List.append_assoc, List.append_assoc, ← htext,
        List.takeWhile_append_dropWhile]

end

end WidgetForge.Json
