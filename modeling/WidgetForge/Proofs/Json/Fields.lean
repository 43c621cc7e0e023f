import WidgetForge.Proofs.Json.Agreement
import WidgetForge.Proofs.Keyed

/-!
# Where the members of a record come from

A record is decoded member by member, in the order in which they are given. Yet the row that comes
out depends only on what is given for each field: nothing, and then the field has to have a value
for when it is absent; one value, and then this has to be of the right kind; and more than one value
is too much. In an object the values are given by name and in an array by place. This holds for open
and for closed records and for all kinds of members.
-/

namespace WidgetForge.Json

/-! ### What is given for a field -/

/-- What a value gives for the field with this place and name. -/
def Value.given : Value → Nat → String → List Value
  | .object members, _, name => Keyed.valuesOf name members
  | .array items, index, _ => items[index]?.toList
  | _, _, _ => []

/-- What is decoded for a field from the values that are given for it. -/
def Field.Decodes (f : Field) : List Value → f.shape.Carrier → Prop
  | [], a => f.absent = some a
  | [v], a => f.shape.ofValue v = .ok a
  | _ :: _ :: _, _ => False

/-- The row that is decoded field by field from what a value gives; `index` is the place of the
first field. -/
def Row.From (v : Value) : Nat → (fs : List Field) → Row fs → Prop
  | _, [], _ => True
  | index, f :: fs, (a, row) => f.Decodes (v.given index f.name) a ∧ From v (index + 1) fs row

/-! ### Objects -/

/-- How values that are given for a field fill its place in a draft. -/
def Shape.Fills (shape : Shape) : Option shape.Carrier → List Value → Option shape.Carrier → Prop
  | slot, [], slot' => slot' = slot
  | none, [v], slot' => ∃ a, shape.ofValue v = .ok a ∧ slot' = some a
  | _, _ :: _, _ => False

theorem Shape.fills_cons {shape : Shape} {slot slot' : Option shape.Carrier} {v : Value}
    {others : List Value} : shape.Fills slot (v :: others) slot' ↔
      slot = none ∧ ∃ a, shape.ofValue v = .ok a ∧ shape.Fills (some a) others slot' := by
  cases slot <;> cases others <;> simp [Fills]

/-- What is decoded for a field is what has filled its place, or what it is when it is absent. -/
theorem Field.decodes_iff {f : Field} {given : List Value} {a : f.shape.Carrier} :
    f.Decodes given a ↔ ∃ slot, f.shape.Fills none given slot ∧ slot.or f.absent = some a := by
  match given with
  | [] => simp [Decodes, Shape.Fills]
  | [v] => simp [Decodes, Shape.Fills]
  | v :: w :: _ => simp [Decodes, Shape.Fills]

namespace Draft

variable {fs : List Field} {d d' : Draft fs} {key : String} {v : Value}
  {all : List (String × Value)}

/-- How members fill a draft, field by field. -/
def Filled (all : List (String × Value)) : (fs : List Field) → Draft fs → Draft fs → Prop
  | [], _, _ => True
  | f :: fs, (slot, d), (slot', d') =>
    f.shape.Fills slot (Keyed.valuesOf f.name all) slot' ∧ Filled all fs d d'

theorem filled_nil : Filled [] fs d d' ↔ d' = d := by
  induction fs with
  | nil => simp [Filled]
  | cons f fs ih =>
    obtain ⟨slot, d⟩ := d
    obtain ⟨slot', d'⟩ := d'
    simp [Filled, Keyed.valuesOf, Shape.Fills, ih]

/-- A member that no field is named after fills nothing. -/
theorem filled_cons_other (h : key ∉ fs.map Field.name) :
    Filled ((key, v) :: all) fs d d' ↔ Filled all fs d d' := by
  induction fs with
  | nil => rfl
  | cons f fs ih =>
    obtain ⟨slot, d⟩ := d
    obtain ⟨slot', d'⟩ := d'
    obtain ⟨hne, hothers⟩ := not_or.mp (mt List.mem_cons.mpr h)
    simp only [Filled, Keyed.valuesOf_cons_of_ne hne, ih hothers]

/-- A member goes into the place of its field, and the others after it. -/
theorem filled_cons (again : Mismatch) (hdistinct : (fs.map Field.name).Nodup)
    (h : key ∈ fs.map Field.name) : Filled ((key, v) :: all) fs d d' ↔
      ∃ d₁, give again (fun shape => (shape.ofValue v).map (·, ())) key fs d =
        some (.ok (d₁, ())) ∧ Filled all fs d₁ d' := by
  induction fs with
  | nil => exact absurd h List.not_mem_nil
  | cons f fs ih =>
    obtain ⟨slot, d⟩ := d
    obtain ⟨slot', d'⟩ := d'
    obtain ⟨hnew, hdistinct⟩ := List.nodup_cons.mp hdistinct
    have hdecode {a : f.shape.Carrier} :
        (f.shape.ofValue v).map (·, ()) = .ok (a, ()) ↔ f.shape.ofValue v = .ok a := by
      cases f.shape.ofValue v <;> simp [Except.map]
    by_cases hname : f.name = key
    · subst hname
      simp only [Filled, Keyed.valuesOf_cons_self, Shape.fills_cons, filled_cons_other hnew]
      constructor
      · rintro ⟨⟨rfl, a, ha, hfills⟩, hothers⟩
        exact ⟨(some a, d), (give_first rfl).mpr ⟨rfl, rfl, a, rfl, hdecode.mpr ha⟩, hfills,
          hothers⟩
      · rintro ⟨⟨slot₁, d₁⟩, hgive, hfills, hothers⟩
        obtain ⟨rfl, rfl, a, rfl, ha⟩ := (give_first rfl).mp hgive
        exact ⟨⟨rfl, a, hdecode.mp ha, hfills⟩, hothers⟩
    · have hlater := (List.mem_cons.mp h).resolve_left (Ne.symm hname)
      simp only [Filled, Keyed.valuesOf_cons_of_ne (Ne.symm hname), ih hdistinct hlater]
      constructor
      · rintro ⟨hfills, d₁, hgive, hothers⟩
        exact ⟨(slot, d₁), (give_later hname).mpr ⟨rfl, hgive⟩, hfills, hothers⟩
      · rintro ⟨⟨slot₁, d₁⟩, hgive, hfills, hothers⟩
        obtain ⟨rfl, hgive₁⟩ := (give_later hname).mp hgive
        exact ⟨hfills, d₁, hgive₁, hothers⟩

/-- A member that no field is named after goes nowhere. -/
theorem give_eq_none {ε σ : Type} {again : ε}
    {decode : (shape : Shape) → Except ε (shape.Carrier × σ)} :
    give again decode key fs d = none ↔ key ∉ fs.map Field.name := by
  induction fs with
  | nil => simp [give]
  | cons f fs ih =>
    obtain ⟨slot, d⟩ := d
    by_cases hname : f.name = key
    · cases slot <;> simp [give, hname]
    · simp [give, hname, ih, Ne.symm hname]

/-- A draft that has been filled is finished to what is decoded field by field. -/
theorem exists_finish_iff {index : Nat} {row : Row fs} :
    (∃ d, Filled all fs (blank fs) d ∧ d.finish fs = .ok row) ↔
      Row.From (.object all) index fs row := by
  induction fs generalizing index with
  | nil => simp [Filled, finish, Row.From]
  | cons f fs ih =>
    obtain ⟨a, row⟩ := row
    have hfinish {slot : Option f.shape.Carrier} {d : Draft fs} :
        finish (f :: fs) (slot, d) = .ok (a, row) ↔
          slot.or f.absent = some a ∧ d.finish fs = .ok row := by
      rw [finish]
      cases slot.or f.absent with
      | none => simp
      | some b => simp [map_pair_eq_ok, eq_comm]
    simp only [Row.From, Value.given, Field.decodes_iff, ← @ih (index + 1)]
    constructor
    · rintro ⟨⟨slot, d⟩, ⟨hfills, hothers⟩, h⟩
      obtain ⟨hslot, hrow⟩ := hfinish.mp h
      exact ⟨⟨slot, hfills, hslot⟩, d, hothers, hrow⟩
    · rintro ⟨⟨slot, hfills, hslot⟩, d, hothers, hrow⟩
      exact ⟨(slot, d), ⟨hfills, hothers⟩, hfinish.mpr ⟨hslot, hrow⟩⟩

end Draft

namespace Record

variable {r : Record}

/-- The members of an object are known, if others are refused. -/
def Knows (r : Record) (all : List (String × Value)) : Prop :=
  r.closed = true → ∀ name ∈ Keyed.names all, name ∈ r.names

/-- A record that is not closed takes any members. -/
theorem knows_of_open (hopen : r.closed = false) (all : List (String × Value)) : r.Knows all := by
  intro hclosed
  rw [hopen] at hclosed
  cases hclosed

theorem ofMembers_eq_ok (hdistinct : r.names.Nodup) {d d' : Draft r.fields}
    {all : List (String × Value)} :
    r.ofMembers d all = .ok d' ↔ r.Knows all ∧ Draft.Filled all r.fields d d' := by
  induction all generalizing d with
  | nil =>
    have hnil : r.Knows [] := fun _ => List.forall_mem_nil _
    rw [ofMembers, and_iff_right hnil, Draft.filled_nil, Except.ok.injEq, eq_comm]
  | cons m all ih =>
    obtain ⟨key, v⟩ := m
    have hknows : r.Knows ((key, v) :: all) ↔ (r.closed = true → key ∈ r.names) ∧ r.Knows all := by
      simp only [Knows, Keyed.names, List.map_cons, List.forall_mem_cons, ← imp_and]
    rw [ofMembers, hknows]
    by_cases hkey : key ∈ r.names
    · rw [Draft.filled_cons (.duplicateField key) hdistinct hkey]
      split
      · next d₁ hgive => simp [hgive, ih, hkey]
      · next m hgive => simp [hgive]
      · next hgive => exact absurd hkey (Draft.give_eq_none.mp hgive)
    · rw [Draft.filled_cons_other hkey, Draft.give_eq_none.mpr hkey]
      cases hclosed : r.closed with
      | true => simp [hkey]
      | false => simp [ih]

/-- **What is decoded from an object** is decoded field by field from the values under their
names. -/
theorem ofObject_iff (hdistinct : r.names.Nodup) {all : List (String × Value)}
    {row : Row r.fields} :
    r.ofObject all = .ok row ↔ r.Knows all ∧ Row.From (.object all) 0 r.fields row := by
  rw [ofObject_eq_ok, ← Draft.exists_finish_iff]
  simp only [ofMembers_eq_ok hdistinct, and_assoc, exists_and_left]

end Record

/-! ### Arrays -/

section

variable {fs : List Field} {index : Nat} {all : List Value}

theorem absent_eq_ok (expected : String) {row : Row fs} (h : all.length ≤ index) :
    Row.absent expected index fs = .ok row ↔ Row.From (.array all) index fs row := by
  induction fs generalizing index with
  | nil => simp [Row.absent, Row.From]
  | cons f fs ih =>
    obtain ⟨a, row⟩ := row
    have hnone : all[index]? = none := List.getElem?_eq_none h
    rw [Row.absent, Row.From, Value.given, hnone, ← ih (Nat.le_succ_of_le h)]
    cases hb : f.absent with
    | none => simp [Field.Decodes, hb]
    | some b => simp [Field.Decodes, hb, map_pair_eq_ok, eq_comm]

/-- What is decoded from the items that are left, and all of them. -/
theorem ofItems_iff {expected : String} {row : Row fs} :
    Row.ofItems expected index fs (all.drop index) = .ok (row, []) ↔
      all.length ≤ index + fs.length ∧ Row.From (.array all) index fs row := by
  induction fs generalizing index with
  | nil => simp [Row.ofItems, Row.From]
  | cons f fs ih =>
    rcases Nat.lt_or_ge index all.length with hlt | hge
    · have hgiven : Value.given (.array all) index f.name = [all[index]] := by
        rw [Value.given, List.getElem?_eq_getElem hlt]
        rfl
      rw [List.drop_eq_getElem_cons hlt, ofItems_cons, ih, Row.From, hgiven, Field.Decodes,
        List.length_cons, Nat.add_right_comm, ← Nat.add_assoc]
      exact and_left_comm
    · have hlength : all.length ≤ index + (f :: fs).length := Nat.le_add_right_of_le hge
      rw [List.drop_of_length_le hge, Row.ofItems, ← absent_eq_ok expected hge,
        and_iff_right hlength]
      cases Row.absent expected index (f :: fs) with
      | error m => simp [Except.map]
      | ok row' => simp [Except.map]

end

namespace Record

variable {r : Record}

/-- **What is decoded from an array** is decoded field by field from the items in their places, and
there are no more items than fields. -/
theorem ofArray_iff {excess : String} {length : Nat} {all : List Value} {row : Row r.fields} :
    r.ofArray excess length all = .ok row ↔
      all.length ≤ r.fields.length ∧ Row.From (.array all) 0 r.fields row := by
  rw [ofArray_eq_ok]
  simpa using @ofItems_iff r.fields 0 all r.whole row

/-- The value has a form that the record can be decoded from: it is an object whose members are all
known, if others are refused, or an array with no more items than there are fields. -/
def Holds (r : Record) : Value → Prop
  | .object all => r.Knows all
  | .array all => all.length ≤ r.fields.length
  | _ => False

/-- **What is decoded from a value** is decoded field by field from what it gives for them. -/
theorem ofValue_iff (hdistinct : r.names.Nodup) {v : Value} {row : Row r.fields} :
    r.ofValue v = .ok row ↔ r.Holds v ∧ Row.From v 0 r.fields row := by
  cases v with
  | object all => exact ofObject_iff hdistinct
  | array all => exact ofArray_iff
  | null | bool b | number n | string s => simp [ofValue, Holds]

end Record

end WidgetForge.Json
