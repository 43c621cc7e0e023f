import WidgetForge.Json.Record
import WidgetForge.Proofs.Json.Nesting
import WidgetForge.Proofs.Json.Values

/-!
# Records that are written are read back

The members of a record are written in the order of its description. Each has a name of its own, so
each goes into its own place of the draft, and no place is filled twice; at the end all places are
filled. This holds whether the members are decoded from values or straight from a text.

A record is made of what its members decode to and of what stands for absent members, so what is
true of both is true of the whole record.
-/

namespace WidgetForge.Json

/-- What is made of something decoded has been decoded. -/
theorem exists_of_map {ε α β : Type} {decoded : Except ε α} {make : α → β} {b : β}
    (h : decoded.map make = .ok b) : ∃ a, decoded = .ok a ∧ make a = b := by
  cases decoded with
  | error e => exact nomatch h
  | ok a => exact ⟨a, rfl, Except.ok.inj h⟩

/-! ### Shapes -/

/-- A kind of values that need no brackets and are never absent. -/
def Shape.IsScalar : Shape → Prop
  | .text | .path | .int64 | .flag => True
  | .texts | .any | .optional _ => False

instance : DecidablePred Shape.IsScalar := fun shape =>
  match shape with
  | .text | .path | .int64 | .flag => .isTrue trivial
  | .texts | .any | .optional _ => .isFalse id

theorem isScalar_toValue {shape : Shape} (h : shape.IsScalar) (a : shape.Carrier) :
    (shape.toValue a).IsScalar := by
  match shape, h with
  | .text, _ | .path, _ | .int64, _ | .flag, _ => trivial

theorem isInt64_toInt (i : Int64) : isInt64 i.toInt := by
  have low := Int64.le_toInt i
  have high := Int64.toInt_lt i
  unfold isInt64
  omega

/-- What stands for something of a kind is taken for it. -/
theorem ofValue_toValue {shape : Shape} (h : shape.IsScalar) (a : shape.Carrier) :
    shape.ofValue (shape.toValue a) = .ok a := by
  match shape, h with
  | .text, _ | .path, _ | .flag, _ => rfl
  | .int64, _ => simp [Shape.toValue, Shape.ofValue, Value.integer, isInt64_toInt]

/-- What is read as a scalar has no brackets, and is taken. -/
theorem readScalar_eq_ok {α : Type} {expected : String} {take : Value → Except Mismatch α}
    {cs rest : List Char} {a : α} :
    readScalar expected take cs = .ok (a, rest) ↔
      ∃ c tail v, skipBlanks cs = c :: tail ∧ c ≠ '[' ∧ c ≠ '\x7b' ∧
        scalar (c :: tail) = .ok (v, rest) ∧ take v = .ok a := by
  constructor
  · intro h
    unfold readScalar at h
    cases hcs : skipBlanks cs with
    | nil => simp [hcs] at h
    | cons c tail =>
      simp only [hcs] at h
      split_ifs at h with hbracket hbrace
      cases hscalar : scalar (c :: tail) with
      | error f => simp [hscalar] at h
      | ok result =>
        obtain ⟨v, left⟩ := result
        cases htake : take v with
        | error m => simp [hscalar, htake] at h
        | ok b =>
          simp only [hscalar, htake, Except.ok.injEq, Prod.mk.injEq] at h
          obtain ⟨rfl, rfl⟩ := h
          exact ⟨c, tail, v, rfl, hbracket, hbrace, hscalar, htake⟩
  · rintro ⟨c, tail, v, hcs, hbracket, hbrace, hscalar, htake⟩
    simp only [readScalar, hcs, hbracket, hbrace, if_false, hscalar, htake]

theorem readScalar_of_scalar {α : Type} {expected : String} {take : Value → Except Mismatch α}
    {cs rest : List Char} {v : Value} {a : α} (hread : scalar cs = .ok (v, rest))
    (htake : take v = .ok a) : readScalar expected take cs = .ok (a, rest) := by
  obtain ⟨c, tail, rfl, hblank, hbracket, hbrace⟩ := scalar_head hread
  exact readScalar_eq_ok.mpr
    ⟨c, tail, v, skipBlanks_cons hblank tail, hbracket, hbrace, hread, htake⟩

/-- What is written for something of a kind is read for it. -/
theorem read_toValue {shape : Shape} (h : shape.IsScalar) (a : shape.Carrier) (depth : Nat)
    {rest : List Char} (hrest : Stops rest) :
    shape.read depth ((shape.toValue a).write ++ rest) = .ok (a, rest) := by
  have hread := scalar_write (isScalar_toValue h a) hrest
  have htake := ofValue_toValue h a
  match shape, h with
  | .text, _ | .path, _ | .int64, _ | .flag, _ => exact readScalar_of_scalar hread htake

/-! ### Drafts -/

namespace Draft

/-- The draft in which all members of a row have been met. -/
def full : (fs : List Field) → Row fs → Draft fs
  | [], _ => ()
  | _ :: fs, (a, row) => (some a, full fs row)

theorem finish_full (fs : List Field) (row : Row fs) : finish fs (full fs row) = .ok row := by
  induction fs with
  | nil => rfl
  | cons f fs ih =>
    obtain ⟨a, row⟩ := row
    simp [full, finish, ih, Except.map]

section

variable {ε σ : Type} {again : ε} {name : String} {left : σ}
  {decode : (shape : Shape) → Except ε (shape.Carrier × σ)}

/-- A member goes into the first place of a draft if this has its name and is empty. -/
theorem give_first {f : Field} (hname : f.name = name) {fs : List Field}
    {slot slot' : Option f.shape.Carrier} {d d' : Draft fs} :
    @give ε σ again decode name (f :: fs) (slot, d) = some (.ok ((slot', d'), left)) ↔
      slot = none ∧ d' = d ∧ ∃ a, slot' = some a ∧ decode f.shape = .ok (a, left) := by
  cases slot with
  | some a => simp [give, hname]
  | none =>
    simp only [give, hname, if_true, Option.some.injEq, true_and]
    constructor
    · intro h
      cases hdecode : decode f.shape with
      | error e => simp [hdecode, Except.map] at h
      | ok result =>
        obtain ⟨a, rest⟩ := result
        simp only [hdecode, Except.map, Except.ok.injEq, Prod.mk.injEq] at h
        obtain ⟨⟨rfl, rfl⟩, rfl⟩ := h
        exact ⟨rfl, a, rfl, rfl⟩
    · rintro ⟨rfl, a, rfl, hdecode⟩
      simp [hdecode, Except.map]

/-- A member with another name goes past the first place of a draft. -/
theorem give_later {f : Field} (hname : f.name ≠ name) {fs : List Field}
    {slot slot' : Option f.shape.Carrier} {d d' : Draft fs} :
    @give ε σ again decode name (f :: fs) (slot, d) = some (.ok ((slot', d'), left)) ↔
      slot' = slot ∧ give again decode name fs d = some (.ok (d', left)) := by
  simp only [give, hname, if_false]
  cases hgive : give again decode name fs d with
  | none => simp
  | some result =>
    cases result with
    | error e => simp [Except.map]
    | ok result =>
      obtain ⟨draft, rest⟩ := result
      simp only [Option.map_some, Except.map, Option.some.injEq, Except.ok.injEq, Prod.mk.injEq]
      constructor
      · rintro ⟨⟨rfl, rfl⟩, rfl⟩
        exact ⟨rfl, rfl, rfl⟩
      · rintro ⟨rfl, rfl, rfl⟩
        exact ⟨⟨rfl, rfl⟩, rfl⟩

end

/-- The member goes into its place of the draft, whatever decodes it. -/
def Takes (fs : List Field) (d : Draft fs) (m : String × Value) (d' : Draft fs) : Prop :=
  ∀ {ε σ : Type} (again : ε) (decode : (shape : Shape) → Except ε (shape.Carrier × σ)) (left : σ),
    (∀ shape a, shape.IsScalar → shape.toValue a = m.2 → decode shape = .ok (a, left)) →
      give again decode m.1 fs d = some (.ok (d', left))

theorem takes_here {f : Field} (h : f.shape.IsScalar) {fs : List Field} (a : f.shape.Carrier)
    (d : Draft fs) : Takes (f :: fs) (none, d) (f.name, f.shape.toValue a) (some a, d) := by
  intro ε σ again decode left hdecode
  simp [give, hdecode f.shape a h rfl, Except.map]

theorem Takes.later {fs : List Field} {d d' : Draft fs} {m : String × Value}
    (h : Takes fs d m d') {f : Field} (hname : f.name ≠ m.1) (slot : Option f.shape.Carrier) :
    Takes (f :: fs) (slot, d) m (slot, d') := by
  intro ε σ again decode left hdecode
  simp [give, hname, h again decode left hdecode, Except.map]

/-- The members go into their places of the draft, one after the other. -/
inductive Fills (fs : List Field) : Draft fs → List (String × Value) → Draft fs → Prop where
  /-- No members leave the draft as it is. -/
  | nil (d : Draft fs) : Fills fs d [] d
  /-- The first member goes into its place, and then the others do. -/
  | cons {d d₁ d' : Draft fs} {m : String × Value} {all : List (String × Value)}
    (first : Takes fs d m d₁) (others : Fills fs d₁ all d') : Fills fs d (m :: all) d'

theorem Fills.later {fs : List Field} {d d' : Draft fs} {all : List (String × Value)}
    (h : Fills fs d all d') {f : Field} (hnames : ∀ m ∈ all, f.name ≠ m.1)
    (slot : Option f.shape.Carrier) : Fills (f :: fs) (slot, d) all (slot, d') := by
  induction h with
  | nil d => exact @Fills.nil (f :: fs) (slot, d)
  | cons first others ih =>
    exact .cons (first.later (hnames _ List.mem_cons_self) slot)
      (ih fun m hm => hnames m (List.mem_cons_of_mem _ hm))

end Draft

theorem names_members (fs : List Field) (row : Row fs) :
    (Row.members fs row).map Prod.fst = fs.map Field.name := by
  induction fs with
  | nil => rfl
  | cons f fs ih => simp [Row.members, ih]

/-- The members of a row fill the draft if their names are distinct. -/
theorem fills_members {fs : List Field} (hscalar : ∀ f ∈ fs, f.shape.IsScalar)
    (hnodup : (fs.map Field.name).Nodup) (row : Row fs) :
    Draft.Fills fs (Draft.blank fs) (Row.members fs row) (Draft.full fs row) := by
  induction fs with
  | nil => exact @Draft.Fills.nil [] ()
  | cons f fs ih =>
    obtain ⟨a, row⟩ := row
    obtain ⟨hname, hnodup⟩ := List.nodup_cons.mp hnodup
    -- The other members have other names, so they all go past the first place.
    have hlater : ∀ m ∈ Row.members fs row, f.name ≠ m.1 := by
      intro m hm heq
      rw [heq, ← names_members fs row] at hname
      exact hname (List.mem_map_of_mem hm)
    have hothers := ih (fun g hg => hscalar g (List.mem_cons_of_mem f hg)) hnodup row
    exact .cons (Draft.takes_here (hscalar f List.mem_cons_self) a _) (hothers.later hlater _)

/-! ### Records -/

namespace Record

variable {r : Record}

/-- A description whose members are scalars with distinct names. -/
structure Flat (r : Record) : Prop where
  /-- The members are scalars. -/
  scalar : ∀ f ∈ r.fields, f.shape.IsScalar
  /-- Their names are distinct. -/
  distinct : r.names.Nodup

theorem ofMembers_of_fills {d d' : Draft r.fields} {all : List (String × Value)}
    (h : Draft.Fills r.fields d all d') : r.ofMembers d all = .ok d' := by
  induction h with
  | nil d => rfl
  | @cons d d₁ d' m all first others ih =>
    have hgive := first (Mismatch.duplicateField m.1)
      (fun shape => (shape.ofValue m.2).map (·, ())) () fun shape a hshape hvalue => by
        rw [← hvalue, ofValue_toValue hshape]
        rfl
    simp [ofMembers, hgive, ih]

/-- **A record that is encoded is decoded again.** -/
theorem ofValue_toValue (h : r.Flat) (row : Row r.fields) :
    r.ofValue (r.toValue row) = .ok row := by
  have hmembers := ofMembers_of_fills (fills_members h.scalar h.distinct row)
  simp only [toValue, ofValue, ofObject, hmembers, Draft.finish_full]

theorem leads_of_fills {d d' : Draft r.fields} {all : List (String × Value)}
    (h : Draft.Fills r.fields d all d') (depth : Nat) :
    Leads (r.readMember depth) d (all.map memberOf) d' := by
  induction h with
  | nil d => exact .nil d
  | @cons d d₁ d' m all first others ih =>
    refine .cons (fun rest hrest => ?_) ih
    unfold readMember memberOf
    rw [first _ _ rest]
    intro shape a hshape hvalue
    simp only [colon_cons, ← hvalue]
    exact read_toValue hshape a depth hrest

/-- A record that is written is read again. -/
theorem read_toValue (h : r.Flat) (row : Row r.fields) (depth : Nat) (rest : List Char) :
    r.read (depth + 1) ((r.toValue row).write ++ rest) = .ok (row, rest) := by
  have hopen : isBlank '\x7b' = false := by decide
  have hleads := leads_of_fills (fills_members h.scalar h.distinct row) depth
  have hread := members_memberTexts hleads rest
  simp only [toValue, write_object_append, read, skipBlanks_cons hopen, if_true, hread,
    Draft.finish_full]

/-- **A record that is written as a text is decoded again.** -/
theorem parse_text (h : r.Flat) (row : Row r.fields) : r.parse (r.toValue row).text = .ok row := by
  have hread := read_toValue h row 126 []
  rw [List.append_nil] at hread
  simp [parse, readText, Value.text, depthLimit, hread, skipBlanks]

/-- The members of a record are scalars. -/
theorem isScalar_of_mem_members {fs : List Field} (h : ∀ f ∈ fs, f.shape.IsScalar) (row : Row fs)
    {m : String × Value} (hm : m ∈ Row.members fs row) : m.2.IsScalar := by
  induction fs with
  | nil => exact absurd hm List.not_mem_nil
  | cons f fs ih =>
    obtain ⟨a, row⟩ := row
    rcases List.mem_cons.mp hm with rfl | hm
    · exact isScalar_toValue (h f List.mem_cons_self) a
    · exact ih (fun g hg => h g (List.mem_cons_of_mem f hg)) row hm

theorem settleMembers_of_isScalar {all : List (String × Value)} (h : ∀ m ∈ all, m.2.IsScalar) :
    settleMembers all = all := by
  refine settleMembers_of_forall fun m hm => ?_
  match m.2, h m hm with
  | .null, _ | .bool _, _ | .number _, _ | .string _, _ => rfl

/-- A record has one pair of brackets and no doubles. -/
theorem plain_toValue (h : r.Flat) (row : Row r.fields) (depth : Nat) :
    (r.toValue row).Plain (depth + 1) := by
  intro m hm
  exact plain_of_isScalar (isScalar_of_mem_members h.scalar row hm) depth

/-- A record repeats no key at any depth. -/
theorem settle_toValue (h : r.Flat) (row : Row r.fields) :
    (r.toValue row).settle = r.toValue row := by
  have hnames : (Keyed.names (Row.members r.fields row)).Nodup := by
    rw [Keyed.names, names_members]
    exact h.distinct
  rw [toValue, Value.settle,
    settleMembers_of_isScalar fun m hm => isScalar_of_mem_members h.scalar row hm,
    Keyed.ofList_of_nodup hnames]

theorem ofObject_eq_ok {all : List (String × Value)} {row : Row r.fields} :
    r.ofObject all = .ok row ↔
      ∃ d, r.ofMembers (Draft.blank r.fields) all = .ok d ∧ d.finish r.fields = .ok row := by
  unfold ofObject
  cases r.ofMembers (Draft.blank r.fields) all <;> simp

theorem ofArray_eq_ok {excess : String} {length : Nat} {all : List Value} {row : Row r.fields} :
    r.ofArray excess length all = .ok row ↔
      Row.ofItems r.whole 0 r.fields all = .ok (row, []) := by
  unfold ofArray
  split
  · next h => simp [h]
  · next h => simp [h]
  · next h => simp [h]

end Record

/-! ### What records are made of -/

theorem ofItems_cons {f : Field} {fs : List Field} {v : Value} {all left : List Value}
    {expected : String} {index : Nat} {row : Row (f :: fs)} :
    Row.ofItems expected index (f :: fs) (v :: all) = .ok (row, left) ↔
      f.shape.ofValue v = .ok row.1 ∧
        Row.ofItems expected (index + 1) fs all = .ok (row.2, left) := by
  obtain ⟨a, row⟩ := row
  rw [Row.ofItems]
  cases htake : f.shape.ofValue v with
  | error m => simp
  | ok b =>
    cases hrow : Row.ofItems expected (index + 1) fs all with
    | error m => simp [Except.map]
    | ok result =>
      obtain ⟨row', left'⟩ := result
      simp [Except.map, and_assoc]

section

variable (P : (shape : Shape) → shape.Carrier → Prop)

/-- Each value that has been met has the property for its shape. -/
def Draft.Every : (fs : List Field) → Draft fs → Prop
  | [], _ => True
  | f :: fs, (slot, d) => (∀ a, slot = some a → P f.shape a) ∧ Every fs d

/-- Each value has the property for its shape. -/
def Row.Every : (fs : List Field) → Row fs → Prop
  | [], _ => True
  | f :: fs, (a, row) => P f.shape a ∧ Every fs row

/-- What stands for an absent member has the property for its shape. -/
def Field.Every (fs : List Field) : Prop := ∀ f ∈ fs, ∀ a, f.absent = some a → P f.shape a

/-- All that is taken from the value has the property for its shape. -/
def Value.Gives (v : Value) : Prop := ∀ (shape : Shape) a, shape.ofValue v = .ok a → P shape a

end

section

variable {P : (shape : Shape) → shape.Carrier → Prop} {fs : List Field}

theorem every_blank (fs : List Field) : Draft.Every P fs (Draft.blank fs) := by
  induction fs with
  | nil => trivial
  | cons f fs ih => exact ⟨nofun, ih⟩

theorem Draft.Every.give {ε σ : Type} {again : ε} {name : String} {left : σ}
    {decode : (shape : Shape) → Except ε (shape.Carrier × σ)} {d d' : Draft fs}
    (h : Draft.Every P fs d) (hdecode : ∀ shape a, decode shape = .ok (a, left) → P shape a)
    (hgive : Draft.give again decode name fs d = some (.ok (d', left))) : Draft.Every P fs d' := by
  induction fs with
  | nil => exact nomatch hgive
  | cons f fs ih =>
    obtain ⟨slot, d⟩ := d
    obtain ⟨slot', d'⟩ := d'
    by_cases hname : f.name = name
    · obtain ⟨-, rfl, a, rfl, ha⟩ := (Draft.give_first hname).mp hgive
      exact ⟨fun b hb => Option.some.inj hb ▸ hdecode f.shape a ha, h.2⟩
    · obtain ⟨rfl, hlater⟩ := (Draft.give_later hname).mp hgive
      exact ⟨h.1, ih h.2 hlater⟩

/-- A row is made of its first value and the others. -/
theorem map_pair_eq_ok {α β : Type} {others : Except Mismatch β} {a b : α} {row : β} :
    others.map (b, ·) = .ok (a, row) ↔ a = b ∧ others = .ok row := by
  cases others with
  | error m => simp [Except.map]
  | ok row' => simp [Except.map, eq_comm]

theorem every_finish (habsent : Field.Every P fs) {d : Draft fs} {row : Row fs}
    (h : Draft.Every P fs d) (hfinish : d.finish fs = .ok row) : Row.Every P fs row := by
  induction fs with
  | nil => trivial
  | cons f fs ih =>
    obtain ⟨slot, d⟩ := d
    obtain ⟨a, row⟩ := row
    rw [Draft.finish] at hfinish
    cases hslot : slot.or f.absent with
    | none => simp [hslot] at hfinish
    | some b =>
      simp only [hslot, map_pair_eq_ok] at hfinish
      obtain ⟨rfl, hothers⟩ := hfinish
      refine ⟨?_, ih (fun g hg => habsent g (List.mem_cons_of_mem f hg)) h.2 hothers⟩
      rcases Option.or_eq_some_iff.mp hslot with hb | ⟨-, hb⟩
      · exact h.1 a hb
      · exact habsent f List.mem_cons_self a hb

theorem every_absent (habsent : Field.Every P fs) {expected : String} {index : Nat} {row : Row fs}
    (h : Row.absent expected index fs = .ok row) : Row.Every P fs row := by
  induction fs generalizing index with
  | nil => trivial
  | cons f fs ih =>
    obtain ⟨a, row⟩ := row
    rw [Row.absent] at h
    cases hb : f.absent with
    | none => simp [hb] at h
    | some b =>
      simp only [hb, map_pair_eq_ok] at h
      obtain ⟨rfl, hothers⟩ := h
      exact ⟨habsent f List.mem_cons_self a hb,
        ih (fun g hg => habsent g (List.mem_cons_of_mem f hg)) hothers⟩

theorem every_ofItems (habsent : Field.Every P fs) {expected : String} {index : Nat}
    {all left : List Value} {row : Row fs} (hall : ∀ v ∈ all, v.Gives P)
    (h : Row.ofItems expected index fs all = .ok (row, left)) : Row.Every P fs row := by
  induction fs generalizing index all with
  | nil => trivial
  | cons f fs ih =>
    cases all with
    | nil =>
      rw [Row.ofItems] at h
      cases hrow : Row.absent expected index (f :: fs) with
      | error m => simp [hrow, Except.map] at h
      | ok row' =>
        simp only [hrow, Except.map, Except.ok.injEq, Prod.mk.injEq] at h
        exact h.1 ▸ every_absent habsent hrow
    | cons v all =>
      obtain ⟨htake, hothers⟩ := ofItems_cons.mp h
      exact ⟨hall v List.mem_cons_self f.shape row.1 htake,
        ih (fun g hg => habsent g (List.mem_cons_of_mem f hg))
          (fun w hw => hall w (List.mem_cons_of_mem v hw)) hothers⟩

end

namespace Record

variable {P : (shape : Shape) → shape.Carrier → Prop} {r : Record}

theorem every_ofMembers {d d' : Draft r.fields} {all : List (String × Value)}
    (hall : ∀ m ∈ all, m.2.Gives P) (hd : Draft.Every P r.fields d)
    (h : r.ofMembers d all = .ok d') : Draft.Every P r.fields d' := by
  induction all generalizing d with
  | nil => exact Except.ok.inj h ▸ hd
  | cons m all ih =>
    have hothers : ∀ n ∈ all, n.2.Gives P := fun n hn => hall n (List.mem_cons_of_mem m hn)
    rw [ofMembers] at h
    split at h
    · next d₁ hgive =>
      refine ih hothers (hd.give (fun shape a hdecode => ?_) hgive) h
      cases htake : shape.ofValue m.2 with
      | error e => simp [htake, Except.map] at hdecode
      | ok b =>
        simp only [htake, Except.map, Except.ok.injEq, Prod.mk.injEq, and_true] at hdecode
        exact hdecode ▸ hall m List.mem_cons_self shape b htake
    · exact nomatch h
    · split_ifs at h
      exact ih hothers hd h

/-- **What is decoded from an object is taken from its members**, or it is absent. -/
theorem every_ofObject (habsent : Field.Every P r.fields) {all : List (String × Value)}
    {row : Row r.fields} (hall : ∀ m ∈ all, m.2.Gives P) (h : r.ofObject all = .ok row) :
    Row.Every P r.fields row := by
  obtain ⟨d, hd, hfinish⟩ := ofObject_eq_ok.mp h
  exact every_finish habsent (every_ofMembers hall (every_blank _) hd) hfinish

/-- **What is decoded from an array is taken from its items**, or it is absent. -/
theorem every_ofArray (habsent : Field.Every P r.fields) {excess : String} {length : Nat}
    {all : List Value} {row : Row r.fields} (hall : ∀ v ∈ all, v.Gives P)
    (h : r.ofArray excess length all = .ok row) : Row.Every P r.fields row :=
  every_ofItems habsent hall (ofArray_eq_ok.mp h)

end Record

end WidgetForge.Json
