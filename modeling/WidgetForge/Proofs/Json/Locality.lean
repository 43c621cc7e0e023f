import Mathlib.Data.List.Basic
import WidgetForge.Proofs.Json.Strings

/-!
# Readers do not look ahead

What a reader makes of a text does not depend on what stands behind the part that it reads: more
text behind is left as it is. A number at the very end is the exception, for it goes on as long as
the text does; what follows it must not look like more of it.
-/

namespace WidgetForge.Json

/-- A text that no number goes on into. -/
def Stops (cs : List Char) : Prop :=
  ∀ c, cs.head? = some c → c.isDigit = false ∧ c ≠ '.' ∧ c ≠ 'e' ∧ c ≠ 'E'

theorem Stops.nil : Stops [] := nofun

theorem Stops.cons {c : Char} (rest : List Char)
    (h : c.isDigit = false ∧ c ≠ '.' ∧ c ≠ 'e' ∧ c ≠ 'E') : Stops (c :: rest) := by
  rintro d ⟨⟩
  exact h

/-- The reader `f` leaves more text as it is. -/
def Local {α : Type} (f : Reader α) : Prop :=
  ∀ cs a left, f cs = .ok (a, left) → ∀ more, (left = [] → Stops more) →
    f (cs ++ more) = .ok (a, left ++ more)

section

variable {α β : Type} {f : Reader α}

/-- What makes something of a value that is read leaves what is left behind the value. -/
theorem map_eq_ok {x : Except Fault (α × List Char)} {g : α → β} {b : β} {left : List Char} :
    (x.map fun (a, rest) => (g a, rest)) = .ok (b, left) ↔ ∃ a, x = .ok (a, left) ∧ g a = b := by
  cases x with
  | error f => simp [Except.map]
  | ok result =>
    obtain ⟨a, rest⟩ := result
    simp only [Except.map, Except.ok.injEq, Prod.mk.injEq]
    constructor
    · rintro ⟨hb, rfl⟩
      exact ⟨a, ⟨rfl, rfl⟩, hb⟩
    · rintro ⟨a, ⟨rfl, rfl⟩, hb⟩
      exact ⟨hb, rfl⟩

theorem Local.map (h : Local f) (g : α → β) :
    Local fun cs => (f cs).map fun (a, rest) => (g a, rest) := by
  intro cs b left hf more hmore
  obtain ⟨a, hcs, rfl⟩ := map_eq_ok.mp hf
  exact map_eq_ok.mpr ⟨a, h cs a left hcs more hmore, rfl⟩

theorem skipBlanks_append {cs rest : List Char} {c : Char} (h : skipBlanks cs = c :: rest)
    (more : List Char) : skipBlanks (cs ++ more) = c :: (rest ++ more) := by
  induction cs with
  | nil => exact nomatch h
  | cons d cs ih =>
    rw [List.cons_append, skipBlanks]
    rw [skipBlanks] at h
    split_ifs at h ⊢ with hblank
    · exact ih h
    · obtain ⟨rfl, rfl⟩ := List.cons.inj h
      rfl

theorem local_word (a : α) (letters : List Char) : Local (word a letters) := by
  induction letters with
  | nil =>
    intro cs b left h more _
    simp only [word, Except.ok.injEq, Prod.mk.injEq] at h
    obtain ⟨rfl, rfl⟩ := h
    rfl
  | cons l letters ih =>
    intro cs b left h more hmore
    cases cs with
    | nil => exact nomatch h
    | cons c cs =>
      rw [word] at h
      rw [List.cons_append, word]
      split_ifs at h ⊢
      exact ih cs b left h more hmore

end

/-! ### Numbers -/

/-- Digits end where they end. -/
theorem takeWhile_append_of_stops {cs more : List Char}
    (h : cs.dropWhile Char.isDigit = [] → Stops more) :
    (cs ++ more).takeWhile Char.isDigit = cs.takeWhile Char.isDigit ∧
      (cs ++ more).dropWhile Char.isDigit = cs.dropWhile Char.isDigit ++ more := by
  induction cs with
  | nil =>
    cases more with
    | nil => exact ⟨rfl, rfl⟩
    | cons c rest =>
      have hdigit : c.isDigit = false := (h rfl c rfl).1
      simp [hdigit]
  | cons c cs ih =>
    cases hdigit : c.isDigit with
    | true =>
      simp only [List.dropWhile_cons, hdigit, if_true] at h
      obtain ⟨htake, hdrop⟩ := ih h
      simp [hdigit, htake, hdrop]
    | false => simp [hdigit]

/-- What reads digits and goes on behind them. -/
theorem local_of_digits {f : List Char → Reader Number} (hf : ∀ digits, Local (f digits))
    (hnil : ∀ digits a left, f digits [] = .ok (a, left) → left = []) :
    Local fun cs => f (cs.takeWhile Char.isDigit) (cs.dropWhile Char.isDigit) := by
  intro cs a left h more hmore
  have hstops : cs.dropWhile Char.isDigit = [] → Stops more := by
    intro hend
    simp only [hend] at h
    exact hmore (hnil _ _ _ h)
  obtain ⟨htake, hdrop⟩ := takeWhile_append_of_stops hstops
  simp only [htake, hdrop]
  exact hf _ _ a left h more hmore

/-- What takes nothing, and gives a number that does not depend on what follows. -/
def Still (f : Reader Number) : Prop :=
  ∀ cs a left, f cs = .ok (a, left) → left = cs ∧ ∀ more, f more = .ok (a, more)

theorem Still.local {f : Reader Number} (hf : Still f) : Local f := by
  intro cs a left h more _
  obtain ⟨rfl, hmore⟩ := hf cs a left h
  exact hmore _

theorem still_realNumber (negative : Bool) (n : Nat) (e : Int) :
    Still (realNumber negative n e) := by
  intro cs a left h
  unfold realNumber at h
  cases hscale : scaleReal (e.natAbs / 308 + 1) (Float.ofNat n) e with
  | none => simp [hscale] at h
  | some x =>
    simp only [hscale, Except.ok.injEq, Prod.mk.injEq] at h
    obtain ⟨rfl, rfl⟩ := h
    exact ⟨rfl, fun more => by simp [realNumber, hscale]⟩

theorem still_exponentTail (negative : Bool) (n : Nat) (e : Int) (down : Bool)
    (digits : List Char) : Still (exponentTail negative n e down digits) := by
  intro cs a left h
  unfold exponentTail at h ⊢
  cases hempty : digits.isEmpty with
  | true => simp [hempty] at h
  | false =>
    cases hnumber : accumulate 0x80000000 0 digits with
    | mk x extra =>
      simp only [hempty, hnumber, Bool.false_eq_true, if_false] at h ⊢
      cases extra with
      | nil => exact still_realNumber _ _ _ _ _ _ h
      | cons d extra =>
        cases hhuge : n ≠ 0 && !down with
        | true => simp only [hhuge, if_true, reduceCtorEq] at h
        | false =>
          simp only [hhuge, Bool.false_eq_true, if_false, Except.ok.injEq, Prod.mk.injEq] at h ⊢
          obtain ⟨rfl, rfl⟩ := h
          exact ⟨rfl, fun more => ⟨rfl, trivial⟩⟩

theorem local_exponentDigits (negative : Bool) (n : Nat) (e : Int) (down : Bool) :
    Local (exponentDigits negative n e down) :=
  local_of_digits (fun digits => (still_exponentTail negative n e down digits).local)
    fun digits a left h => (still_exponentTail negative n e down digits [] a left h).1

theorem exponentSign_append {cs : List Char} (h : cs ≠ []) (more : List Char) :
    exponentSign (cs ++ more) = ((exponentSign cs).1, (exponentSign cs).2 ++ more) := by
  cases cs with
  | nil => exact absurd rfl h
  | cons c rest =>
    rw [List.cons_append, exponentSign, exponentSign]
    split_ifs <;> rfl

theorem local_exponent (negative : Bool) (n : Nat) (e : Int) : Local (exponent negative n e) := by
  intro cs a left h more hmore
  unfold exponent at h ⊢
  have hne : cs ≠ [] := by
    rintro rfl
    exact nomatch h
  rw [exponentSign_append hne]
  exact local_exponentDigits _ _ _ _ _ a left h more hmore

theorem local_exponentOrEnd (negative : Bool) (n : Nat) (e : Int) :
    Local (exponentOrEnd negative n e) := by
  intro cs a left h more hmore
  unfold exponentOrEnd at h ⊢
  cases cs with
  | nil =>
    obtain ⟨rfl, hstill⟩ := still_realNumber _ _ _ _ _ _ h
    cases more with
    | nil => exact h
    | cons c rest =>
      obtain ⟨-, -, he, hE⟩ := hmore rfl c rfl
      simp [he, hE, hstill]
  | cons c rest =>
    simp only [List.cons_append] at h ⊢
    split_ifs at h ⊢
    · exact local_exponent _ _ _ _ a left h more hmore
    · exact (still_realNumber _ _ _).local _ a left h more hmore

theorem local_fractionTail (negative : Bool) (n : Nat) (e : Int) (digits : List Char) :
    Local (fractionTail negative n e digits) := by
  intro cs a left h more hmore
  unfold fractionTail at h ⊢
  split_ifs at h ⊢
  exact local_exponentOrEnd _ _ _ _ a left h more hmore

theorem local_fraction (negative : Bool) (n : Nat) (e : Int) : Local (fraction negative n e) := by
  refine local_of_digits (local_fractionTail negative n e) fun digits a left h => ?_
  unfold fractionTail at h
  split_ifs at h
  exact (still_realNumber _ _ _ _ _ _ h).1

theorem numberTail_nil {negative : Bool} {n extra : Nat} {a : Number} {left : List Char}
    (h : numberTail negative n extra [] = .ok (a, left)) : left = [] := by
  unfold numberTail at h
  split_ifs at h
  · simp only [Except.ok.injEq, Prod.mk.injEq] at h
    exact h.2.symm
  · exact (still_realNumber _ _ _ _ _ _ h).1

theorem local_numberTail (negative : Bool) (n extra : Nat) :
    Local (numberTail negative n extra) := by
  intro cs a left h more hmore
  cases cs with
  | nil =>
    have hleft := numberTail_nil h
    subst hleft
    cases more with
    | nil => exact h
    | cons c rest =>
      obtain ⟨-, hpoint, he, hE⟩ := hmore rfl c rfl
      unfold numberTail at h ⊢
      simp only [List.nil_append, hpoint, he, hE, decide_false, Bool.or_self, Bool.false_eq_true,
        if_false]
      split_ifs at h ⊢
      · simp only [Except.ok.injEq, Prod.mk.injEq] at h ⊢
        exact ⟨h.1, trivial⟩
      · exact (still_realNumber _ _ _ _ _ _ h).2 _
  | cons c rest =>
    unfold numberTail at h ⊢
    simp only [List.cons_append] at h ⊢
    split_ifs at h ⊢
    · exact local_fraction _ _ _ _ a left h more hmore
    · exact local_exponent _ _ _ _ a left h more hmore
    · simp only [Except.ok.injEq, Prod.mk.injEq] at h ⊢
      exact ⟨h.1, by rw [← h.2, List.cons_append]⟩
    · exact (still_realNumber _ _ _).local _ a left h more hmore

theorem local_number (negative : Bool) : Local (number negative) := by
  intro cs a left h more hmore
  cases cs with
  | nil => exact nomatch h
  | cons c rest =>
    unfold number at h ⊢
    simp only [List.cons_append] at h ⊢
    by_cases hzero : c = '0'
    · simp only [hzero, if_true] at h ⊢
      split_ifs at h with hdigit
      have hnext : ((rest ++ more).head?.any Char.isDigit) = false := by
        cases rest with
        | nil =>
          cases more with
          | nil => rfl
          | cons d more => exact (hmore (numberTail_nil h) d rfl).1
        | cons d rest => simpa using hdigit
      simp only [hnext, Bool.false_eq_true, if_false]
      exact local_numberTail _ _ _ _ a left h more hmore
    · simp only [hzero, if_false] at h ⊢
      split_ifs at h with hdigit
      simp only [hdigit, if_true]
      exact local_of_digits (f := fun digits => numberTail negative
        (accumulate 0x10000000000000000 0 digits).1
        (accumulate 0x10000000000000000 0 digits).2.length)
        (fun digits => local_numberTail _ _ _) (fun digits a left => numberTail_nil)
        (c :: rest) a left h more hmore

/-! ### Strings -/

/-- A string ends at its closing quote, whatever follows. Of all the cases of `stringTail` only
those matter here in which it goes on or is done. -/
theorem stringTail_append {read cs out left : List Char} (h : stringTail read cs = .ok (out, left))
    (more : List Char) : stringTail read (cs ++ more) = .ok (out, left ++ more) := by
  fun_induction stringTail read cs
  case case2 =>
    simp only [Except.ok.injEq, Prod.mk.injEq] at h
    obtain ⟨rfl, rfl⟩ := h
    exact stringTail_quote _ _
  case case4 hescape _ ih =>
    rw [List.cons_append, List.cons_append, stringTail_short hescape]
    exact ih h
  case case13 hescape hu _ _ _ _ _ hquad hlow hhigh _ hx _ hy _ _ _ _ _ _ hquad' hlow' _ ih =>
    obtain rfl := not_not.mp hu
    obtain rfl := not_not.mp hx
    obtain rfl := not_not.mp hy
    simp only [List.cons_append]
    rw [stringTail_pair hquad (Bool.eq_false_iff.mpr hlow) hhigh hquad' hlow']
    exact ih h
  case case16 hescape hu _ _ _ _ _ _ hquad hlow hhigh _ ih =>
    obtain rfl := not_not.mp hu
    simp only [List.cons_append]
    rw [stringTail_unicode hquad (Bool.eq_false_iff.mpr hlow) (Bool.eq_false_iff.mpr hhigh)]
    exact ih h
  case case19 quote backslash control ih =>
    rw [List.cons_append, stringTail_plain quote backslash control]
    exact ih h
  all_goals exact nomatch h

theorem local_string : Local string := by
  intro cs s left h more _
  obtain ⟨out, hcs, rfl⟩ := map_eq_ok.mp h
  exact map_eq_ok.mpr ⟨out, stringTail_append hcs more, rfl⟩

theorem local_scalar : Local scalar := by
  intro cs a left h more hmore
  cases cs with
  | nil => exact nomatch h
  | cons c rest =>
    rw [List.cons_append]
    unfold scalar at h ⊢
    simp only [← List.cons_append] at h ⊢
    split_ifs at h ⊢
    · exact local_word _ _ _ a left h more hmore
    · exact local_word _ _ _ a left h more hmore
    · exact local_word _ _ _ a left h more hmore
    · exact (local_number true).map _ _ a left h more hmore
    · exact (local_number false).map _ _ a left h more hmore
    · exact local_string.map _ _ a left h more hmore

/-! ### Values -/

section

variable {α β : Type}

theorem local_ok (a : α) : Local fun cs => .ok (a, cs) := by
  intro cs b left h more _
  simp only [Except.ok.injEq, Prod.mk.injEq] at h
  obtain ⟨rfl, rfl⟩ := h
  rfl

theorem local_error (fault : List Char → Fault) :
    Local fun cs => (.error (fault cs) : Except Fault (α × List Char)) :=
  fun _ _ _ h => nomatch h

theorem local_ite (p : Prop) [Decidable p] {f g : Reader α} (hf : Local f) (hg : Local g) :
    Local fun cs => if p then f cs else g cs := by
  by_cases hp : p
  · simpa [hp] using hf
  · simpa [hp] using hg

/-- A character can be put in front again. -/
theorem Local.cons {f : Reader α} (hf : Local f) (c : Char) : Local fun cs => f (c :: cs) :=
  fun cs a left h more hmore => hf (c :: cs) a left h more hmore

theorem local_ok_cons (a : α) (c : Char) : Local fun cs => .ok (a, c :: cs) := by
  intro cs b left h more _
  simp only [Except.ok.injEq, Prod.mk.injEq] at h
  obtain ⟨rfl, rfl⟩ := h
  rfl

/-- Blanks are passed first. -/
theorem local_skipBlanks (fault : Fault) {f : Char → Reader α} (hf : ∀ c, Local (f c)) :
    Local fun cs =>
      match skipBlanks cs with
      | [] => .error fault
      | c :: rest => f c rest := by
  intro cs a left h more hmore
  cases hcs : skipBlanks cs with
  | nil => simp [hcs] at h
  | cons c rest =>
    simp only [hcs] at h
    simp only [skipBlanks_append hcs more]
    exact hf c rest a left h more hmore

theorem local_colon : Local colon :=
  local_skipBlanks _ fun _ => local_ite _ (local_ok _) (local_error _)

theorem local_nextItem (first : Bool) : Local (nextItem first) :=
  local_skipBlanks _ fun c =>
    local_ite _ (local_ok _) <| local_ite _ (local_ok_cons _ c) <|
      local_ite _ (local_skipBlanks _ fun d => local_ite _ (local_error _) (local_ok_cons _ d))
        (local_error _)

theorem local_nextKey (first : Bool) : Local (nextKey first) := by
  have hkey := local_string.map (some : String → Option String)
  exact local_skipBlanks _ fun c =>
    local_ite _ (local_ok _) <|
      local_ite _ (local_ite _ hkey (local_error _)) <|
        local_ite _ (local_skipBlanks _ fun d =>
          local_ite _ hkey (local_ite _ (local_error _) (local_error _))) (local_error _)

variable {σ : Type}

/-- Where another item begins there is some text. -/
theorem ne_nil_of_nextItem {first : Bool} {cs rest : List Char}
    (h : nextItem first cs = .ok (true, rest)) : rest ≠ [] := by
  rintro rfl
  unfold nextItem at h
  repeat' split at h
  all_goals simp at h

section

variable {step : σ → Reader σ} {fuel fuel' : Nat} {first : Bool} {s s' : σ}
  {cs left more : List Char}

/-- Where items are read there are no more, or one is read and then the others are. -/
theorem foldItems_succ :
    foldItems step (fuel + 1) first s cs = .ok (s', left) ↔
      (nextItem first cs = .ok (false, left) ∧ s' = s) ∨
      ∃ rest s₁ rest₁, nextItem first cs = .ok (true, rest) ∧ step s rest = .ok (s₁, rest₁) ∧
        foldItems step fuel false s₁ rest₁ = .ok (s', left) := by
  rw [foldItems]
  cases hnext : nextItem first cs with
  | error f => simp
  | ok result =>
    obtain ⟨another, rest⟩ := result
    cases another with
    | false => simp [eq_comm, and_comm]
    | true =>
      cases hitem : step s rest with
      | error f => simp [hitem]
      | ok result =>
        obtain ⟨s₁, rest₁⟩ := result
        simp [hitem]

/-- Items are read in the same way with more text behind and more steps allowed. -/
theorem foldItems_append (hstep : ∀ s, Local (step s)) (hfuel : fuel ≤ fuel')
    (h : foldItems step fuel first s cs = .ok (s', left)) (hmore : left = [] → Stops more) :
    foldItems step fuel' first s (cs ++ more) = .ok (s', left ++ more) := by
  induction fuel generalizing fuel' first s cs with
  | zero => exact nomatch h
  | succ fuel ih =>
    obtain ⟨fuel', rfl⟩ := Nat.exists_eq_add_of_le' (Nat.le_trans (Nat.le_add_left 1 fuel) hfuel)
    rcases foldItems_succ.mp h with ⟨hnext, rfl⟩ | ⟨rest, s₁, rest₁, hnext, hitem, h⟩
    · exact foldItems_succ.mpr (.inl ⟨local_nextItem first cs false left hnext more hmore, rfl⟩)
    · have hrest := ne_nil_of_nextItem hnext
      have hrest₁ : rest₁ ≠ [] := by
        rintro rfl
        cases fuel <;> exact nomatch h
      refine foldItems_succ.mpr (.inr ⟨rest ++ more, s₁, rest₁ ++ more, ?_, ?_, ih (by omega) h⟩)
      · exact local_nextItem first cs true rest hnext more fun hnil => absurd hnil hrest
      · exact hstep s rest s₁ rest₁ hitem more fun hnil => absurd hnil hrest₁

end

section

variable {step : σ → String → Reader σ} {fuel fuel' : Nat} {first : Bool} {s s' : σ}
  {cs left more : List Char}

/-- Where members are read there are no more, or one is read and then the others are. -/
theorem foldMembers_succ :
    foldMembers step (fuel + 1) first s cs = .ok (s', left) ↔
      (nextKey first cs = .ok (none, left) ∧ s' = s) ∨
      ∃ key rest s₁ rest₁, nextKey first cs = .ok (some key, rest) ∧
        step s key rest = .ok (s₁, rest₁) ∧
        foldMembers step fuel false s₁ rest₁ = .ok (s', left) := by
  rw [foldMembers]
  cases hnext : nextKey first cs with
  | error f => simp
  | ok result =>
    obtain ⟨key, rest⟩ := result
    cases key with
    | none => simp [eq_comm, and_comm]
    | some key =>
      cases hmember : step s key rest with
      | error f => simp [hmember]
      | ok result =>
        obtain ⟨s₁, rest₁⟩ := result
        simp [hmember]

/-- Members are read in the same way with more text behind and more steps allowed. -/
theorem foldMembers_append (hstep : ∀ s k, Local (step s k)) (hnil : ∀ s k a, step s k [] ≠ .ok a)
    (hfuel : fuel ≤ fuel') (h : foldMembers step fuel first s cs = .ok (s', left))
    (hmore : left = [] → Stops more) :
    foldMembers step fuel' first s (cs ++ more) = .ok (s', left ++ more) := by
  induction fuel generalizing fuel' first s cs with
  | zero => exact nomatch h
  | succ fuel ih =>
    obtain ⟨fuel', rfl⟩ := Nat.exists_eq_add_of_le' (Nat.le_trans (Nat.le_add_left 1 fuel) hfuel)
    rcases foldMembers_succ.mp h with ⟨hnext, rfl⟩ | ⟨key, rest, s₁, rest₁, hnext, hmember, h⟩
    · exact foldMembers_succ.mpr (.inl ⟨local_nextKey first cs none left hnext more hmore, rfl⟩)
    · have hrest : rest ≠ [] := by
        rintro rfl
        exact hnil s key _ hmember
      have hrest₁ : rest₁ ≠ [] := by
        rintro rfl
        cases fuel <;> exact nomatch h
      refine foldMembers_succ.mpr
        (.inr ⟨key, rest ++ more, s₁, rest₁ ++ more, ?_, ?_, ih (by omega) h⟩)
      · exact local_nextKey first cs (some key) rest hnext more fun hnil => absurd hnil hrest
      · exact hstep s key rest s₁ rest₁ hmember more fun hnil => absurd hnil hrest₁

end

theorem local_items {step : σ → Reader σ} (hstep : ∀ s, Local (step s)) (s : σ) :
    Local (items step s) := by
  intro cs s' left h more hmore
  exact foldItems_append hstep (by simp) h hmore

theorem local_members {step : σ → String → Reader σ} (hstep : ∀ s k, Local (step s k))
    (hnil : ∀ s k a, step s k [] ≠ .ok a) (s : σ) : Local (members step s) := by
  intro cs s' left h more hmore
  exact foldMembers_append hstep hnil (by simp) h hmore

/-- A colon is passed first. -/
theorem local_behindColon {f : Reader α} (hf : Local f) (hnil : ∀ a, f [] ≠ .ok a) :
    Local fun cs =>
      match colon cs with
      | .error f => .error f
      | .ok (_, cs) => f cs := by
  intro cs a left h more hmore
  cases hcolon : colon cs with
  | error f => simp [hcolon] at h
  | ok result =>
    obtain ⟨u, rest⟩ := result
    simp only [hcolon] at h
    have hrest : rest ≠ [] := by
      rintro rfl
      exact hnil _ h
    simp only [local_colon cs u rest hcolon more fun hnil => absurd hnil hrest]
    exact hf rest a left h more hmore

end

theorem value_nil (depth : Nat) (a : Value × List Char) : value depth [] ≠ .ok a := by
  unfold value
  exact nofun

theorem local_item {f : Reader Value} (hf : Local f) (read : List Value) : Local (item f read) :=
  hf.map (· :: read)

theorem local_member {f : Reader Value} (hf : Local f) (hnil : ∀ a, f [] ≠ .ok a)
    (read : List (String × Value)) (key : String) : Local (member f read key) := by
  refine local_behindColon (hf.map fun v => (key, v) :: read) fun a => ?_
  cases hf : f [] with
  | error e => exact nofun
  | ok b => exact absurd hf (hnil b)

/-- The reader of a value, one level of brackets at a time. -/
theorem value_succ (depth : Nat) : value (depth + 1) = fun cs =>
    match skipBlanks cs with
    | [] => .error (.on .endInValue [])
    | c :: rest =>
      if c = '[' then
        (items (item (value depth)) [] rest).map fun (read, rest) => (.array read.reverse, rest)
      else if c = '\x7b' then
        (members (member (value depth)) [] rest).map
          fun (read, rest) => (.object read.reverse, rest)
      else scalar (c :: rest) := by
  funext cs
  exact value.eq_def (depth + 1) cs

/-- A value begins with its bracket, or it is a scalar. -/
theorem value_eq_ok {depth : Nat} {cs left : List Char} {v : Value} :
    value depth cs = .ok (v, left) ↔ ∃ c rest, skipBlanks cs = c :: rest ∧
      if c = '[' then ∃ n read, depth = n + 1 ∧
        items (item (value n)) [] rest = .ok (read, left) ∧ v = .array read.reverse
      else if c = '\x7b' then ∃ n read, depth = n + 1 ∧
        members (member (value n)) [] rest = .ok (read, left) ∧ v = .object read.reverse
      else scalar (c :: rest) = .ok (v, left) := by
  rw [value.eq_def]
  cases hcs : skipBlanks cs with
  | nil => simp [hcs]
  | cons c rest =>
    simp only [hcs, List.cons.injEq, and_assoc, exists_and_left, exists_eq_left']
    split_ifs with hbracket hbrace
    · cases depth with
      | zero => simp
      | succ depth =>
        have hmap := @map_eq_ok _ _ (items (item (value depth)) [] rest)
          (fun all => Value.array all.reverse) v left
        refine hmap.trans ?_
        simp [eq_comm]
    · cases depth with
      | zero => simp
      | succ depth =>
        have hmap := @map_eq_ok _ _ (members (member (value depth)) [] rest)
          (fun all => Value.object all.reverse) v left
        refine hmap.trans ?_
        simp [eq_comm]
    · rfl

/-- **A value does not depend on what follows it.** -/
theorem local_value (depth : Nat) : Local (value depth) := by
  induction depth with
  | zero =>
    have hzero : value 0 = fun cs =>
        match skipBlanks cs with
        | [] => .error (.on .endInValue [])
        | c :: rest =>
          if c = '[' then .error (.on .tooDeep (c :: rest))
          else if c = '\x7b' then .error (.on .tooDeep (c :: rest))
          else scalar (c :: rest) := by
      funext cs
      exact value.eq_def 0 cs
    rw [hzero]
    exact local_skipBlanks _ fun c =>
      local_ite _ (local_error _) (local_ite _ (local_error _) (local_scalar.cons c))
  | succ depth ih =>
    rw [value_succ]
    refine local_skipBlanks _ fun c => local_ite _ ?_ (local_ite _ ?_ (local_scalar.cons c))
    · exact (local_items (local_item ih) []).map fun read => Value.array read.reverse
    · refine (local_members (local_member ih (value_nil depth)) (fun read key a h => ?_) []).map
        fun read => Value.object read.reverse
      exact nomatch h

end WidgetForge.Json
