import Mathlib.Data.List.TakeWhile
import WidgetForge.Text.Identifier

/-!
# Names that stand alone are the runs of identifier characters

A name is looked for by going from one occurrence to the next, and the search goes on behind an
occurrence that does not stand alone. Nothing is missed that way, if the name is made of identifier
characters only: an occurrence that begins inside another one has an identifier character of the
other one before it, so it does not stand alone either.

`Alone` says what is looked for, without a search. The names that stand alone in a text are the
longest runs of identifier characters in it.
-/

namespace WidgetForge.Text

/-- A name that is not empty and made of identifier characters. -/
structure IsIdentifierName (name : List Char) : Prop where
  ne_nil : name ≠ []
  all : ∀ c ∈ name, isIdentifier c = true

instance (name : List Char) : Decidable (IsIdentifierName name) :=
  decidable_of_iff (name ≠ [] ∧ name.all isIdentifier = true)
    ⟨fun h => ⟨h.1, List.all_eq_true.mp h.2⟩, fun h => ⟨h.ne_nil, List.all_eq_true.mpr h.all⟩⟩

/-- `Alone name before text`: at some place of the text stands the name, and no identifier character
touches it there. The character `before` precedes the text. -/
inductive Alone (name : List Char) : Option Char → List Char → Prop where
  /-- It stands at the front. -/
  | here {before : Option Char} {rest : List Char} :
      separates before = true → separates rest.head? = true → Alone name before (name ++ rest)
  /-- It stands further behind. -/
  | later {before : Option Char} {c : Char} {rest : List Char} :
      Alone name (some c) rest → Alone name before (c :: rest)

section

variable {name text rest current : List Char} {before before' : Option Char} {c : Char}

theorem separates_some : separates (some c) = !isIdentifier c := rfl

/-! ### Names that stand alone -/

theorem not_alone_nil (hname : name ≠ []) : ¬ Alone name before [] := by
  intro h
  generalize htext : ([] : List Char) = text at h
  cases h with
  | here => exact hname (List.append_eq_nil_iff.mp htext.symm).1
  | later => exact nomatch htext

/-- A name stands alone at the front or further behind. -/
theorem alone_cons_iff : Alone name before (c :: rest) ↔
    (separates before = true ∧ name <+: c :: rest ∧
      separates ((c :: rest).drop name.length).head? = true) ∨ Alone name (some c) rest := by
  constructor
  · intro h
    generalize htext : c :: rest = text at h
    cases h with
    | @here _ behind hbefore hbehind =>
      exact Or.inl ⟨hbefore, List.prefix_append name behind, by rwa [List.drop_left]⟩
    | later hrest =>
      obtain ⟨rfl, rfl⟩ := List.cons.inj htext
      exact Or.inr hrest
  · rintro (⟨hbefore, ⟨behind, htext⟩, hbehind⟩ | hrest)
    · rw [← htext, List.drop_left] at hbehind
      rw [← htext]
      exact .here hbefore hbehind
    · exact .later hrest

/-- Behind an identifier character no name stands alone at once. -/
theorem alone_cons_iff_of_touched (hbefore : separates before = false) :
    Alone name before (c :: rest) ↔ Alone name (some c) rest := by
  rw [alone_cons_iff, hbefore]
  simp

/-- Of the character before a text it only matters whether it separates. -/
theorem alone_congr (hname : name ≠ []) (h : separates before = separates before') :
    Alone name before text ↔ Alone name before' text := by
  cases text with
  | nil => simp only [not_alone_nil hname]
  | cons c rest => rw [alone_cons_iff, alone_cons_iff, h]

/-! ### The search -/

/-- Occurrences of a name may be passed over from one to the next: what begins inside an occurrence
does not stand alone. The induction carries that the characters to be passed over, and the one
before them, belong to a name. -/
theorem occursAlone_iff_alone (hname : IsIdentifierName name) {skip : Nat}
    (hinside : skip ≠ 0 → separates before = false)
    (hskip : ∀ c ∈ text.take skip, isIdentifier c = true) :
    occursAlone name skip before text = true ↔ Alone name before text := by
  induction text generalizing skip before with
  | nil => simp [occursAlone, not_alone_nil hname.ne_nil]
  | cons c rest ih =>
    cases skip with
    | succ skip =>
      have hc : isIdentifier c = true := hskip c (by simp)
      have hrest : ∀ d ∈ rest.take skip, isIdentifier d = true := fun d hd =>
        hskip d (by simp [hd])
      rw [occursAlone, alone_cons_iff_of_touched (hinside (Nat.succ_ne_zero _))]
      exact ih (fun _ => by simp [separates_some, hc]) hrest
    | zero =>
      rw [occursAlone, alone_cons_iff]
      by_cases hstarts : name <+: c :: rest
      · rw [if_pos (List.isPrefixOf_iff_prefix.mpr hstarts)]
        -- an occurrence: its first character is `c`, and its others come next in `rest`
        obtain ⟨first, others, rfl⟩ := List.exists_cons_of_ne_nil hname.ne_nil
        obtain ⟨rfl, hothers⟩ := List.cons_prefix_cons.mp hstarts
        have hc : isIdentifier first = true := hname.all first List.mem_cons_self
        have htake : rest.take others.length = others := (List.prefix_iff_eq_take.mp hothers).symm
        have hnext := @ih (some first) others.length (fun _ => by simp [separates_some, hc])
          (fun d hd => hname.all d (List.mem_cons_of_mem _ (htake ▸ hd)))
        simp [hothers, hnext]
      · rw [if_neg (mt List.isPrefixOf_iff_prefix.mp hstarts)]
        have hnext := @ih (some c) 0 (fun h => absurd rfl h) (by simp)
        simp [hstarts, hnext]

/-! ### The runs -/

/-- A name stands at the front of a text, not touched from behind, if it is all that the text begins
with. -/
theorem prefix_and_separates_iff (hname : ∀ c ∈ name, isIdentifier c = true) :
    (name <+: text ∧ separates (text.drop name.length).head? = true) ↔
      name = text.takeWhile isIdentifier := by
  constructor
  · rintro ⟨⟨rest, rfl⟩, hrest⟩
    rw [List.drop_left] at hrest
    rw [List.takeWhile_append_of_pos hname]
    cases rest with
    | nil => simp
    | cons c rest =>
      have hc : isIdentifier c = false := by simpa [separates_some] using hrest
      simp [hc]
  · intro h
    have hbehind : text.drop name.length = text.dropWhile isIdentifier := by
      have hsplit : name ++ text.dropWhile isIdentifier = text := by
        rw [h, List.takeWhile_append_dropWhile]
      have hdrop : (name ++ text.dropWhile isIdentifier).drop name.length =
          text.dropWhile isIdentifier := List.drop_left
      rwa [hsplit] at hdrop
    refine ⟨h ▸ List.takeWhile_prefix _, ?_⟩
    rw [hbehind]
    cases hrest : text.dropWhile isIdentifier with
    | nil => rfl
    | cons c rest =>
      have hne : text.dropWhile isIdentifier ≠ [] := by simp [hrest]
      have hhead := List.head_dropWhile_not isIdentifier hne
      simpa [hrest, separates_some] using hhead

/-- The runs of a text behind the run that is being read: this run goes on as far as it can, and the
others are the names that stand alone later. -/
theorem mem_runsFrom_iff (hname : IsIdentifierName name)
    (hcurrent : ∀ c ∈ current, isIdentifier c = true) :
    name ∈ runsFrom current text ↔
      (current ≠ [] ∧ name = current.reverse ++ text.takeWhile isIdentifier) ∨
        Alone name current.head? text := by
  have hopen : separates (none : Option Char) = true := rfl
  induction text generalizing current with
  | nil =>
    cases current with
    | nil => simp [runsFrom, not_alone_nil hname.ne_nil]
    | cons d current => simp [runsFrom, not_alone_nil hname.ne_nil]
  | cons c rest ih =>
    cases hc : isIdentifier c with
    | true =>
      have hmore : ∀ d ∈ c :: current, isIdentifier d = true :=
        List.forall_mem_cons.mpr ⟨hc, hcurrent⟩
      rw [runsFrom, if_pos hc]
      refine (ih hmore).trans ?_
      cases current with
      | nil =>
        -- a run begins here: it is the name if the name stands alone at the front
        have hfront := @prefix_and_separates_iff name (c :: rest) hname.all
        rw [List.takeWhile_cons_of_pos hc] at hfront
        simp only [List.head?_nil, List.head?_cons, alone_cons_iff, hopen, true_and,
          hfront]
        simp
      | cons d current =>
        have htouched : separates (some d) = false := by
          simp [separates_some, hcurrent d List.mem_cons_self]
        simp [alone_cons_iff_of_touched htouched, hc]
    | false =>
      have hnone : Alone name none rest ↔ Alone name (some c) rest :=
        alone_congr hname.ne_nil (by simp [separates_some, hc, hopen])
      -- the name does not begin here, for `c` is none of its characters
      have hnot : ¬ name <+: c :: rest := by
        intro hstarts
        obtain ⟨first, others, rfl⟩ := List.exists_cons_of_ne_nil hname.ne_nil
        obtain ⟨rfl, -⟩ := List.cons_prefix_cons.mp hstarts
        rw [hname.all first List.mem_cons_self] at hc
        exact nomatch hc
      have hrest := @ih [] (by simp)
      rw [List.head?_nil, hnone] at hrest
      rw [runsFrom, if_neg (by simp [hc]), alone_cons_iff]
      cases current with
      | nil => simpa [hnot] using hrest
      | cons d current => simpa [hnot, hc] using or_congr_right hrest

end

/-! ### Both -/

/-- **A name is used as an identifier if it is one of the longest runs of identifier
characters.** -/
theorem references_iff_mem_identifierRuns {source name : String}
    (hname : IsIdentifierName name.toList) :
    references source name = true ↔ name ∈ identifierRuns source := by
  have hne : name.isEmpty = false := by
    rw [← Bool.not_eq_true, String.isEmpty_iff]
    rintro rfl
    exact hname.ne_nil rfl
  have hsearch : occursAlone name.toList 0 none source.toList = true ↔
      Alone name.toList none source.toList :=
    occursAlone_iff_alone hname (fun h => absurd rfl h) (by simp)
  have hruns := @mem_runsFrom_iff name.toList source.toList [] hname (by simp)
  simp only [ne_eq, not_true_eq_false, false_and, false_or, List.head?_nil] at hruns
  rw [references, hne, Bool.not_false, Bool.true_and, hsearch, ← hruns, identifierRuns,
    List.mem_map]
  constructor
  · intro h
    exact ⟨name.toList, h, String.ofList_toList⟩
  · rintro ⟨run, hrun, rfl⟩
    rwa [String.toList_ofList]

end WidgetForge.Text
