import WidgetForge.Proofs.Json.Agreement
import WidgetForge.Proofs.Json.Spelling

/-!
# The grammar of JSON

Which texts spell which values is said here without a reader: a scalar has its spellings, an array
is spelled by its items and an object by its members, with commas between them and blanks anywhere
around them, and brackets are nested so deep and no deeper. The reader finds a value in just the
texts that spell it, so no text spells two.

Arrays and objects are read in the same way, but for the bracket at the end and for what stands
between two commas. `ReadsList` says what they have in common.
-/

namespace WidgetForge.Json

/-! ### Pieces between commas -/

section

variable {α : Type}

/-- What is spelled may have blanks on both sides. -/
def Padded (spells : α → List Char → Prop) (a : α) (cs : List Char) : Prop :=
  ∃ before body after, Blanks before ∧ Blanks after ∧ spells a body ∧
    cs = before ++ (body ++ after)

/-- Pieces with commas between them, one at least. -/
inductive Parted (piece : α → List Char → Prop) : List α → List Char → Prop where
  /-- A piece alone. -/
  | one {a : α} {cs : List Char} (last : piece a cs) : Parted piece [a] cs
  /-- A piece, a comma and other pieces. -/
  | more {a : α} {cs : List Char} {all : List α} {body : List Char} (first : piece a cs)
    (others : Parted piece all body) : Parted piece (a :: all) (cs ++ ',' :: body)

/-- Pieces with commas between them, or blanks if there are none. -/
def Listed (spells : α → List Char → Prop) (all : List α) (body : List Char) : Prop :=
  (all = [] ∧ Blanks body) ∨ Parted (Padded spells) all body

/-- The comma before a piece that is not the first. -/
def comma (first : Bool) : List Char := if first then [] else [',']

/-- The text goes on behind the comma, if there has to be one, with blanks on both sides of it. -/
def Comes (first : Bool) (cs rest : List Char) : Prop :=
  ∃ before behind, Blanks before ∧ Blanks behind ∧ cs = before ++ (comma first ++ (behind ++ rest))

variable {spells : α → List Char → Prop} {all : List α} {body before : List Char}

/-- There may be more blanks before the first piece. -/
theorem Parted.blanks (h : Parted (Padded spells) all body) (hbefore : Blanks before) :
    Parted (Padded spells) all (before ++ body) := by
  have hpiece {a : α} {cs : List Char} (h : Padded spells a cs) :
      Padded spells a (before ++ cs) := by
    obtain ⟨blanks, body, after, hblanks, hafter, hbody, rfl⟩ := h
    exact ⟨before ++ blanks, body, after, hbefore.append hblanks, hafter, hbody, by simp⟩
  cases h with
  | one last => exact .one (hpiece last)
  | more first others =>
    rw [← List.append_assoc]
    exact .more (hpiece first) others

theorem comes_first {c : Char} {cs rest : List Char} (hc : isBlank c = false) :
    Comes true cs (c :: rest) ↔ skipBlanks cs = c :: rest := by
  rw [skipBlanks_eq_cons, and_iff_right hc]
  constructor
  · rintro ⟨before, behind, hbefore, hbehind, rfl⟩
    exact ⟨before ++ behind, hbefore.append hbehind, by simp [comma]⟩
  · rintro ⟨before, hbefore, rfl⟩
    exact ⟨before, [], hbefore, .nil, rfl⟩

theorem comes_later {c : Char} {cs rest : List Char} (hc : isBlank c = false) :
    Comes false cs (c :: rest) ↔
      ∃ tail, skipBlanks cs = ',' :: tail ∧ skipBlanks tail = c :: rest := by
  have hcomma : isBlank ',' = false := by decide
  simp only [skipBlanks_eq_cons, hc, hcomma, true_and]
  constructor
  · rintro ⟨before, behind, hbefore, hbehind, rfl⟩
    exact ⟨behind ++ c :: rest, ⟨before, hbefore, rfl⟩, behind, hbehind, rfl⟩
  · rintro ⟨_, ⟨before, hbefore, rfl⟩, behind, hbehind, rfl⟩
    exact ⟨before, behind, hbefore, hbehind, rfl⟩

end

/-! ### Lists in brackets -/

section

variable {α : Type} {close : Char} {spells : α → List Char → Prop}
  {next : Bool → List Char → α → List Char → Prop} {fold : Nat → Bool → List α → Reader (List α)}

/-- How pieces are read up to the closing bracket, each of them put before those already read:
`next` takes a piece behind its comma, and what it takes is spelled there. -/
structure ReadsList (close : Char) (spells : α → List Char → Prop)
    (next : Bool → List Char → α → List Char → Prop)
    (fold : Nat → Bool → List α → Reader (List α)) : Prop where
  /-- No number goes on into the bracket. -/
  stops : ∀ rest, Stops (close :: rest)
  /-- No piece is spelled as nothing. -/
  nonempty : ∀ {a : α} {body : List Char}, spells a body → body ≠ []
  /-- A piece that is taken is spelled. -/
  sound : ∀ {first : Bool} {cs : List Char} {a : α} {left : List Char}, next first cs a left →
    ∃ body, spells a body ∧ Comes first cs (body ++ left)
  /-- A piece that is spelled is taken. -/
  complete : ∀ {first : Bool} {cs : List Char} {a : α} {body left : List Char}, spells a body →
    Stops left → Comes first cs (body ++ left) → next first cs a left
  /-- Without steps nothing is read. -/
  zero : ∀ {first : Bool} {read : List α} {cs : List Char} {a : List α × List Char},
    fold 0 first read cs ≠ .ok a
  /-- A step goes past the bracket or takes a piece. -/
  succ : ∀ {fuel : Nat} {first : Bool} {read : List α} {cs : List Char} {out : List α}
    {left : List Char}, fold (fuel + 1) first read cs = .ok (out, left) ↔
      (out = read ∧ ∃ before, Blanks before ∧ cs = before ++ close :: left) ∨
      ∃ a tail, next first cs a tail ∧ fold fuel false (a :: read) tail = .ok (out, left)

namespace ReadsList

/-- Pieces that are spelled are read, if there are steps enough. -/
theorem read_of_parted (h : ReadsList close spells next fold) {all : List α} {body : List Char}
    (hall : Parted (Padded spells) all body) {fuel : Nat} (hfuel : body.length < fuel)
    {before : List Char} (hbefore : Blanks before) (first : Bool) (read : List α)
    (rest : List Char) :
    fold fuel first read (before ++ (comma first ++ (body ++ close :: rest))) =
      .ok (all.reverse ++ read, rest) := by
  induction hall generalizing fuel before first read with
  | @one a _ last =>
    obtain ⟨behind, body, after, hbehind, hafter, hbody, rfl⟩ := last
    -- a step for the piece and one for the bracket
    obtain ⟨fuel, rfl⟩ : ∃ n, fuel = n + 2 := by
      have hlength := List.length_pos_iff.mpr (h.nonempty hbody)
      simp only [List.length_append] at hfuel
      exact ⟨fuel - 2, by omega⟩
    refine h.succ.mpr (.inr ⟨a, after ++ close :: rest, ?_, ?_⟩)
    · exact h.complete hbody (hafter.stops (h.stops rest))
        ⟨before, behind, hbefore, hbehind, by simp⟩
    · exact h.succ.mpr (.inl ⟨rfl, after, hafter, rfl⟩)
  | @more a _ all more piece others ih =>
    obtain ⟨behind, body, after, hbehind, hafter, hbody, rfl⟩ := piece
    obtain ⟨fuel, rfl⟩ := Nat.exists_eq_add_of_le' (Nat.zero_lt_of_lt hfuel)
    have hmore : more.length < fuel := by
      simp only [List.length_append, List.length_cons] at hfuel
      omega
    refine h.succ.mpr (.inr ⟨a, after ++ (comma false ++ (more ++ close :: rest)), ?_, ?_⟩)
    · exact h.complete hbody (hafter.stops (Stops.cons _ (by decide)))
        ⟨before, behind, hbefore, hbehind, by simp [comma]⟩
    · rw [ih hmore hafter false (a :: read), List.reverse_cons, List.append_assoc]
      rfl

/-- What is read are pieces that are spelled, up to the bracket. -/
theorem exists_of_read (h : ReadsList close spells next fold) {fuel : Nat} {first : Bool}
    {read out : List α} {cs left : List Char} (hread : fold fuel first read cs = .ok (out, left)) :
    ∃ all, out = all.reverse ++ read ∧
      ((all = [] ∧ ∃ before, Blanks before ∧ cs = before ++ close :: left) ∨
        ∃ body, Parted (Padded spells) all body ∧ Comes first cs (body ++ close :: left)) := by
  induction fuel generalizing first read cs with
  | zero => exact absurd hread h.zero
  | succ fuel ih =>
    rcases h.succ.mp hread with ⟨rfl, hclose⟩ | ⟨a, tail, hnext, hothers⟩
    · exact ⟨[], rfl, .inl ⟨rfl, hclose⟩⟩
    · obtain ⟨body, hbody, before, behind, hbefore, hbehind, rfl⟩ := h.sound hnext
      obtain ⟨all, rfl, hall⟩ := ih hothers
      refine ⟨a :: all, by simp, .inr ?_⟩
      -- the blanks up to the next comma or the bracket belong to this piece
      rcases hall with ⟨rfl, after, hafter, rfl⟩ | ⟨more, hmore, after, _, hafter, hblanks, rfl⟩
      · have hpiece : Padded spells a (body ++ after) := ⟨[], body, after, .nil, hafter, hbody, rfl⟩
        exact ⟨_, .one hpiece, before, behind, hbefore, hbehind, by simp⟩
      · have hpiece : Padded spells a (body ++ after) := ⟨[], body, after, .nil, hafter, hbody, rfl⟩
        exact ⟨_, .more hpiece (hmore.blanks hblanks), before, behind, hbefore, hbehind,
          by simp [comma]⟩

/-- **A list in brackets is read as the pieces that it spells.** -/
theorem read_iff (h : ReadsList close spells next fold) {out : List α} {cs left : List Char} :
    fold (cs.length + 1) true [] cs = .ok (out, left) ↔
      ∃ body, Listed spells out.reverse body ∧ cs = body ++ close :: left := by
  constructor
  · intro hread
    obtain ⟨all, rfl, hall⟩ := h.exists_of_read hread
    rw [List.append_nil, List.reverse_reverse]
    rcases hall with
      ⟨rfl, before, hbefore, rfl⟩ | ⟨body, hall, before, behind, hbefore, hbehind, rfl⟩
    · exact ⟨before, .inl ⟨rfl, hbefore⟩, rfl⟩
    · exact ⟨_, .inr (hall.blanks (hbefore.append hbehind)), by simp [comma]⟩
  · rintro ⟨body, ⟨hnil, hbody⟩ | hall, rfl⟩
    · obtain rfl := List.reverse_eq_nil_iff.mp hnil
      exact h.succ.mpr (.inl ⟨rfl, body, hbody, rfl⟩)
    · have hread := h.read_of_parted hall (Nat.lt_succ_of_le
        (List.length_append ▸ Nat.le_add_right _ _ :
          body.length ≤ (body ++ close :: left).length)) .nil true [] left
      simpa [comma] using hread

end ReadsList

end

/-! ### Arrays -/

section

variable {spells : Value → List Char → Prop} {f : Reader Value}

/-- The reader `f` finds a value where it is spelled, behind blanks, and nowhere else. -/
structure Reads (f : Reader Value) (spells : Value → List Char → Prop) : Prop where
  /-- What is read is spelled. -/
  sound : ∀ {cs left : List Char} {v : Value}, f cs = .ok (v, left) →
    ∃ before body, Blanks before ∧ spells v body ∧ cs = before ++ (body ++ left)
  /-- What is spelled is read. -/
  complete : ∀ {before body left : List Char} {v : Value}, Blanks before → spells v body →
    Stops left → f (before ++ (body ++ left)) = .ok (v, left)
  /-- A value is spelled with a character of its own at the front. -/
  opens : ∀ {v : Value} {body : List Char}, spells v body → Opens body

theorem nextItem_eq_true {first : Bool} {cs rest : List Char} :
    nextItem first cs = .ok (true, rest) ↔ Opens rest ∧ Comes first cs rest := by
  unfold nextItem
  constructor
  · intro h
    split at h
    · exact nomatch h
    · next c tail hcs =>
      have hblank := isBlank_of_skipBlanks hcs
      split_ifs at h with hclose hfirst hcomma
      · exact nomatch h
      · obtain ⟨-, rfl⟩ := Prod.mk.inj (Except.ok.inj h)
        subst hfirst
        exact ⟨⟨c, tail, rfl, hblank, hclose⟩, (comes_first hblank).mpr hcs⟩
      · split at h
        · exact nomatch h
        · next d more htail =>
          have hblank' := isBlank_of_skipBlanks htail
          split_ifs at h with hclose'
          obtain ⟨-, rfl⟩ := Prod.mk.inj (Except.ok.inj h)
          obtain rfl := Bool.eq_false_iff.mpr hfirst
          subst hcomma
          exact ⟨⟨d, more, rfl, hblank', hclose'⟩, (comes_later hblank').mpr ⟨tail, hcs, htail⟩⟩
  · rintro ⟨⟨c, rest, rfl, hblank, hclose⟩, h⟩
    cases first with
    | true => simp [(comes_first hblank).mp h, hclose]
    | false =>
      obtain ⟨tail, hcs, htail⟩ := (comes_later hblank).mp h
      simp [hcs, htail, hclose]

/-- The items of an array are read. -/
theorem Reads.items (h : Reads f spells) :
    ReadsList ']' spells (fun first cs v left => ∃ rest, nextItem first cs = .ok (true, rest) ∧
      f rest = .ok (v, left)) (foldItems (item f)) where
  stops := stops_bracket
  nonempty hbody := by
    obtain ⟨c, rest, rfl, -⟩ := h.opens hbody
    exact List.cons_ne_nil c rest
  sound := by
    rintro first cs v left ⟨rest, hnext, hread⟩
    obtain ⟨-, before, behind, hbefore, hbehind, rfl⟩ := nextItem_eq_true.mp hnext
    obtain ⟨blanks, body, hblanks, hbody, rfl⟩ := h.sound hread
    exact ⟨body, hbody, before, behind ++ blanks, hbefore, hbehind.append hblanks, by simp⟩
  complete := by
    intro first cs v body left hbody hleft hcomes
    obtain ⟨c, rest, rfl, hopens⟩ := h.opens hbody
    exact ⟨_, nextItem_eq_true.mpr ⟨⟨c, rest ++ left, rfl, hopens⟩, hcomes⟩,
      h.complete .nil hbody hleft⟩
  zero := nofun
  succ := by
    intro fuel first read cs out left
    have hclose : isBlank ']' = false := by decide
    rw [foldItems_succ, nextItem_eq_false, skipBlanks_eq_cons, and_iff_right hclose,
      and_comm (b := out = read)]
    refine or_congr_right ?_
    constructor
    · rintro ⟨rest, s, tail, hnext, hitem, hothers⟩
      obtain ⟨v, hv, rfl⟩ := item_iff.mp hitem
      exact ⟨v, tail, ⟨rest, hnext, hv⟩, hothers⟩
    · rintro ⟨v, tail, ⟨rest, hnext, hv⟩, hothers⟩
      exact ⟨rest, _, tail, hnext, item_iff.mpr ⟨v, hv, rfl⟩, hothers⟩

/-! ### Objects -/

/-- Ways to spell a member: its key, a colon and its value. -/
inductive SpellsMember (spells : Value → List Char → Prop) : String × Value → List Char → Prop where
  /-- There may be blanks on both sides of the colon. -/
  | member {key : String} {name before behind : List Char} {v : Value} {body : List Char}
    (hkey : SpellsString key name) (hbefore : Blanks before) (hbehind : Blanks behind)
    (hvalue : spells v body) :
    SpellsMember spells (key, v) ('"' :: (name ++ '"' :: (before ++ ':' :: (behind ++ body))))

theorem nextKey_eq_some {first : Bool} {key : String} {cs left : List Char} :
    nextKey first cs = .ok (some key, left) ↔
      ∃ name, SpellsString key name ∧ Comes first cs ('"' :: (name ++ '"' :: left)) := by
  have hquote : isBlank '"' = false := by decide
  have hkey {rest : List Char} : ((string rest).map fun result => (some result.1, result.2)) =
      .ok (some key, left) ↔ ∃ name, SpellsString key name ∧ rest = name ++ '"' :: left := by
    rw [← string_eq_ok]
    exact (map_eq_ok (g := some)).trans (by simp)
  unfold nextKey
  constructor
  · intro h
    split at h
    · cases h
    · next c tail hcs =>
      split_ifs at h with hclose hfirst hc hcomma
      · cases h
      · obtain ⟨name, hname, rfl⟩ := hkey.mp h
        subst hfirst hc
        exact ⟨name, hname, (comes_first hquote).mpr hcs⟩
      · split at h
        · cases h
        · next d more htail =>
          split_ifs at h with hd
          obtain ⟨name, hname, rfl⟩ := hkey.mp h
          obtain rfl := Bool.eq_false_iff.mpr hfirst
          subst hcomma hd
          exact ⟨name, hname, (comes_later hquote).mpr ⟨tail, hcs, htail⟩⟩
  · rintro ⟨name, hname, h⟩
    have hread := hkey.mpr ⟨name, hname, rfl⟩
    cases first with
    | true => simpa [(comes_first hquote).mp h] using hread
    | false =>
      obtain ⟨tail, hcs, htail⟩ := (comes_later hquote).mp h
      simpa [hcs, htail] using hread

theorem nextKey_eq_none {first : Bool} {cs left : List Char} :
    nextKey first cs = .ok (none, left) ↔ skipBlanks cs = '\x7d' :: left := by
  have hkey {rest : List Char} :
      ((string rest).map fun result => (some result.1, result.2)) ≠ .ok (none, left) := by
    intro h
    obtain ⟨k, -, hk⟩ := (map_eq_ok (g := some)).mp h
    cases hk
  unfold nextKey
  cases hcs : skipBlanks cs with
  | nil => simp
  | cons c tail =>
    by_cases hclose : c = '\x7d'
    · simp [hclose]
    · simp only [hclose, if_false, List.cons.injEq, false_and, iff_false]
      split_ifs
      · exact hkey
      · rintro ⟨⟩
      · split
        · rintro ⟨⟩
        · split_ifs
          · exact hkey
          · rintro ⟨⟩
          · rintro ⟨⟩
      · rintro ⟨⟩

theorem colon_eq_ok {cs left : List Char} :
    colon cs = .ok ((), left) ↔ ∃ before, Blanks before ∧ cs = before ++ ':' :: left := by
  have hcolon : isBlank ':' = false := by decide
  have hskip := @skipBlanks_eq_cons cs left ':'
  rw [and_iff_right hcolon] at hskip
  rw [← hskip]
  unfold colon
  cases skipBlanks cs with
  | nil => simp
  | cons c rest =>
    simp only
    split_ifs with hc
    · simp [hc]
    · simp [hc]

/-- The members of an object are read. -/
theorem Reads.members (h : Reads f spells) :
    ReadsList '\x7d' (SpellsMember spells)
      (fun first cs m left => ∃ rest tail, nextKey first cs = .ok (some m.1, rest) ∧
        colon rest = .ok ((), tail) ∧ f tail = .ok (m.2, left)) (foldMembers (member f)) where
  stops := stops_brace
  nonempty := by
    rintro m body ⟨⟩
    exact List.cons_ne_nil _ _
  sound := by
    rintro first cs ⟨key, v⟩ left ⟨rest, tail, hnext, hcolon, hread⟩
    obtain ⟨name, hname, hcomes⟩ := nextKey_eq_some.mp hnext
    obtain ⟨before, hbefore, rfl⟩ := colon_eq_ok.mp hcolon
    obtain ⟨behind, body, hbehind, hbody, rfl⟩ := h.sound hread
    exact ⟨'"' :: (name ++ '"' :: (before ++ ':' :: (behind ++ body))),
      .member hname hbefore hbehind hbody, by simpa using hcomes⟩
  complete := by
    rintro first cs ⟨key, v⟩ _ left ⟨hname, hbefore, hbehind, hbody⟩ hleft hcomes
    refine ⟨_, _, nextKey_eq_some.mpr ⟨_, hname, ?_⟩, colon_eq_ok.mpr ⟨_, hbefore, rfl⟩,
      h.complete hbehind hbody hleft⟩
    simpa using hcomes
  zero := nofun
  succ := by
    intro fuel first read cs out left
    have hclose : isBlank '\x7d' = false := by decide
    rw [foldMembers_succ, nextKey_eq_none, skipBlanks_eq_cons, and_iff_right hclose,
      and_comm (b := out = read)]
    refine or_congr_right ?_
    constructor
    · rintro ⟨key, rest, s, left₁, hnext, hmember, hothers⟩
      obtain ⟨tail, v, hcolon, hv, rfl⟩ := member_iff.mp hmember
      exact ⟨(key, v), left₁, ⟨rest, tail, hnext, hcolon, hv⟩, hothers⟩
    · rintro ⟨⟨key, v⟩, left₁, ⟨rest, tail, hnext, hcolon, hv⟩, hothers⟩
      exact ⟨key, rest, _, left₁, hnext, member_iff.mpr ⟨tail, v, hcolon, hv, rfl⟩, hothers⟩

end

/-! ### Values -/

/-- Ways to spell an array or an object, if `spells` tells how what is in it may be spelled. -/
inductive SpellsBrackets (spells : Value → List Char → Prop) : Value → List Char → Prop where
  /-- An array is spelled by its items. -/
  | array {all : List Value} {body : List Char} (items : Listed spells all body) :
    SpellsBrackets spells (.array all) ('[' :: (body ++ [']']))
  /-- An object is spelled by its members. -/
  | object {all : List (String × Value)} {body : List Char}
    (members : Listed (SpellsMember spells) all body) :
    SpellsBrackets spells (.object all) ('\x7b' :: (body ++ ['\x7d']))

/-- Ways to spell a value with brackets nested at most `depth` deep. -/
def Spells : Nat → Value → List Char → Prop
  | 0, v, body => SpellsScalar v body
  | depth + 1, v, body => SpellsScalar v body ∨ SpellsBrackets (Spells depth) v body

/-- The text is JSON with brackets nested at most `depth` deep, and this is its value. -/
def IsText (depth : Nat) (v : Value) (text : String) : Prop := Padded (Spells depth) v text.toList

theorem spells_of_scalar {v : Value} {body : List Char} (h : SpellsScalar v body) (depth : Nat) :
    Spells depth v body := by
  cases depth with
  | zero => exact h
  | succ depth => exact .inl h

theorem opens_of_spells {depth : Nat} {v : Value} {body : List Char} (h : Spells depth v body) :
    Opens body := by
  cases depth with
  | zero => exact opens_of_spellsScalar h
  | succ depth =>
    rcases h with h | ⟨-⟩ | ⟨-⟩
    · exact opens_of_spellsScalar h
    · exact ⟨'[', _, rfl, by decide, by decide⟩
    · exact ⟨'\x7b', _, rfl, by decide, by decide⟩

/-- What is spelled as a scalar is read as a value, behind blanks. -/
theorem value_of_spellsScalar {depth : Nat} {v : Value} {before body left : List Char}
    (hbefore : Blanks before) (h : SpellsScalar v body) (hleft : Stops left) :
    value depth (before ++ (body ++ left)) = .ok (v, left) := by
  have hread := scalar_of_spells h hleft
  obtain ⟨c, rest, hbody, hblank, hbracket, hbrace⟩ := scalar_head hread
  rw [hbody] at hread ⊢
  refine value_eq_ok.mpr ⟨c, rest, by rw [hbefore.skip, skipBlanks_cons hblank], ?_⟩
  rwa [if_neg hbracket, if_neg hbrace]

/-- What is spelled in brackets is read as a value, behind blanks. -/
theorem value_of_spellsBrackets {depth : Nat} (h : Reads (value depth) (Spells depth)) {v : Value}
    {before body left : List Char} (hbefore : Blanks before)
    (hbody : SpellsBrackets (Spells depth) v body) :
    value (depth + 1) (before ++ (body ++ left)) = .ok (v, left) := by
  have hopen {c : Char} (hc : isBlank c = false) (rest : List Char) :
      skipBlanks (before ++ c :: rest) = c :: rest := by
    rw [hbefore.skip, skipBlanks_cons hc]
  cases hbody with
  | @array all inner hitems =>
    have hread : items (item (value depth)) [] (inner ++ ']' :: left) = .ok (all.reverse, left) :=
      h.items.read_iff.mpr ⟨inner, by rwa [List.reverse_reverse], rfl⟩
    refine value_eq_ok.mpr ⟨'[', inner ++ ']' :: left, ?_, ?_⟩
    · simp [hopen (show isBlank '[' = false by decide)]
    · rw [if_pos rfl]
      exact ⟨depth, all.reverse, rfl, hread, by rw [List.reverse_reverse]⟩
  | @object all inner hmembers =>
    have hread : members (member (value depth)) [] (inner ++ '\x7d' :: left) =
        .ok (all.reverse, left) :=
      h.members.read_iff.mpr ⟨inner, by rwa [List.reverse_reverse], rfl⟩
    refine value_eq_ok.mpr ⟨'\x7b', inner ++ '\x7d' :: left, ?_, ?_⟩
    · simp [hopen (show isBlank '\x7b' = false by decide)]
    · rw [if_neg (by decide), if_pos rfl]
      exact ⟨depth, all.reverse, rfl, hread, by rw [List.reverse_reverse]⟩

/-- What is read as a value is spelled, behind blanks, if this is so for what stands in brackets. -/
theorem exists_of_value {depth : Nat} {v : Value} {cs left : List Char}
    (hin : ∀ n, depth = n + 1 → Reads (value n) (Spells n))
    (h : value depth cs = .ok (v, left)) :
    ∃ before body, Blanks before ∧ Spells depth v body ∧ cs = before ++ (body ++ left) := by
  obtain ⟨c, tail, hcs, hvalue⟩ := value_eq_ok.mp h
  obtain ⟨-, before, hbefore, rfl⟩ := skipBlanks_eq_cons.mp hcs
  split_ifs at hvalue with hbracket hbrace
  · obtain ⟨n, read, rfl, hitems, rfl⟩ := hvalue
    obtain ⟨body, hbody, rfl⟩ := (hin n rfl).items.read_iff.mp hitems
    exact ⟨before, '[' :: (body ++ [']']), hbefore, .inr (.array hbody), by simp [hbracket]⟩
  · obtain ⟨n, read, rfl, hmembers, rfl⟩ := hvalue
    obtain ⟨body, hbody, rfl⟩ := (hin n rfl).members.read_iff.mp hmembers
    exact ⟨before, '\x7b' :: (body ++ ['\x7d']), hbefore, .inr (.object hbody), by simp [hbrace]⟩
  · obtain ⟨body, hbody, htext⟩ := exists_spells_of_scalar hvalue
    exact ⟨before, body, hbefore, spells_of_scalar hbody depth, by rw [htext]⟩

/-- **A value is read where it is spelled**, with brackets nested as deep as the reader goes. -/
theorem reads_value (depth : Nat) : Reads (value depth) (Spells depth) := by
  induction depth with
  | zero => exact ⟨exists_of_value nofun, value_of_spellsScalar, opens_of_spells⟩
  | succ depth ih =>
    have hin : ∀ n, depth + 1 = n + 1 → Reads (value n) (Spells n) := by
      rintro _ ⟨⟩
      exact ih
    refine ⟨exists_of_value hin, fun hbefore hbody hleft => ?_, opens_of_spells⟩
    rcases hbody with hbody | hbody
    · exact value_of_spellsScalar hbefore hbody hleft
    · exact value_of_spellsBrackets ih hbefore hbody

/-- **A text is read as the value that it spells**. -/
theorem read_iff_isText {text : String} {v : Value} :
    Value.read text = .ok v ↔ IsText depthLimit v text := by
  rw [Value.read, readText_eq_ok]
  constructor
  · rintro ⟨rest, hread, hrest⟩
    obtain ⟨before, body, hbefore, hbody, htext⟩ := (reads_value depthLimit).sound hread
    exact ⟨before, body, rest, hbefore, skipBlanks_eq_nil.mp hrest, hbody, htext⟩
  · rintro ⟨before, body, after, hbefore, hafter, hbody, htext⟩
    refine ⟨after, ?_, skipBlanks_eq_nil.mpr hafter⟩
    have hstops : Stops (after ++ []) := hafter.stops .nil
    rw [List.append_nil] at hstops
    exact htext ▸ (reads_value depthLimit).complete hbefore hbody hstops

namespace IsText

variable {depth : Nat} {v w : Value} {text : String}

theorem exists_value (h : IsText depth v text) :
    ∃ after, value depth text.toList = .ok (v, after) := by
  obtain ⟨before, body, after, hbefore, hafter, hbody, htext⟩ := h
  have hstops : Stops (after ++ []) := hafter.stops .nil
  rw [List.append_nil] at hstops
  exact ⟨after, htext ▸ (reads_value depth).complete hbefore hbody hstops⟩

theorem inj (h : IsText depth v text) (h' : IsText depth w text) : v = w := by
  obtain ⟨after, hv⟩ := h.exists_value
  obtain ⟨after', hw⟩ := h'.exists_value
  exact (Prod.mk.inj (Except.ok.inj (hv.symm.trans hw))).1

/-- The value of a text is nested as deep as the text is. -/
theorem nested (h : IsText depth v text) : v.Nested depth := by
  obtain ⟨after, hv⟩ := h.exists_value
  exact nested_of_value hv

end IsText

/-- What is written is the text of the value. -/
theorem isText_text {depth : Nat} {v : Value} (h : v.Plain depth) : IsText depth v v.text := by
  obtain ⟨before, body, hbefore, hbody, htext⟩ :=
    (reads_value depth).sound ((value_write h).2 [] Stops.nil)
  refine ⟨before, body, [], hbefore, .nil, hbody, ?_⟩
  rw [Value.text, String.toList_ofList, ← htext, List.append_nil]

/-! ### Deeper texts -/

section

variable {α : Type} {spells spells' : α → List Char → Prop}

theorem Padded.mono (hspells : ∀ a body, spells a body → spells' a body) {a : α} {cs : List Char}
    (h : Padded spells a cs) : Padded spells' a cs := by
  obtain ⟨before, body, after, hbefore, hafter, hbody, htext⟩ := h
  exact ⟨before, body, after, hbefore, hafter, hspells a body hbody, htext⟩

theorem Parted.mono {piece piece' : α → List Char → Prop}
    (hpiece : ∀ a cs, piece a cs → piece' a cs) {all : List α} {body : List Char}
    (h : Parted piece all body) : Parted piece' all body := by
  induction h with
  | one last => exact .one (hpiece _ _ last)
  | more first _ ih => exact .more (hpiece _ _ first) ih

theorem Listed.mono (hspells : ∀ a body, spells a body → spells' a body) {all : List α}
    {body : List Char} (h : Listed spells all body) : Listed spells' all body :=
  h.imp id (Parted.mono fun _ _ hpiece => hpiece.mono hspells)

end

theorem SpellsBrackets.mono {spells spells' : Value → List Char → Prop}
    (hspells : ∀ v body, spells v body → spells' v body) {v : Value} {body : List Char}
    (h : SpellsBrackets spells v body) : SpellsBrackets spells' v body := by
  cases h with
  | array items => exact .array (items.mono hspells)
  | object members =>
    refine .object (members.mono ?_)
    rintro _ _ ⟨hkey, hbefore, hbehind, hvalue⟩
    exact .member hkey hbefore hbehind (hspells _ _ hvalue)

/-- Where brackets may be nested deeper, a value is spelled in the same way. -/
theorem spells_succ {depth : Nat} {v : Value} {body : List Char} (h : Spells depth v body) :
    Spells (depth + 1) v body := by
  induction depth generalizing v body with
  | zero => exact .inl h
  | succ depth ih => exact h.imp id fun hbrackets => hbrackets.mono fun _ _ => ih

theorem IsText.mono {depth depth' : Nat} {v : Value} {text : String} (h : IsText depth v text)
    (hle : depth ≤ depth') : IsText depth' v text := by
  induction hle with
  | refl => exact h
  | step _ ih => exact Padded.mono (fun _ _ => spells_succ) ih

/-- **No text has two values**, whatever brackets are allowed. -/
theorem IsText.unique {depth depth' : Nat} {v w : Value} {text : String} (h : IsText depth v text)
    (h' : IsText depth' w text) : v = w :=
  (h.mono (Nat.le_max_left depth depth')).inj (h'.mono (Nat.le_max_right depth depth'))

/-- Nested arrays, with nothing in the innermost one. -/
def Value.nest : Nat → Value
  | 0 => .array []
  | n + 1 => .array [nest n]

theorem plain_nest (n : Nat) : (Value.nest n).Plain (n + 1) := by
  induction n with
  | zero => exact List.forall_mem_nil _
  | succ n ih => exact List.forall_mem_singleton.mpr ih

theorem settle_nest (n : Nat) : (Value.nest n).settle = Value.nest n := by
  induction n with
  | zero => rfl
  | succ n ih => simp only [Value.nest, Value.settle, settleItems, ih]

theorem not_nested_nest (n : Nat) : ¬ (Value.nest n).Nested n := by
  induction n with
  | zero => exact id
  | succ n ih => exact fun h => ih (List.forall_mem_singleton.mp h)

end WidgetForge.Json
