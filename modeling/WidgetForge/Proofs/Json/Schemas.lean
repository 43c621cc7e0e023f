import Mathlib.Data.List.Nodup
import Mathlib.Data.Set.List
import WidgetForge.Json.Schema
import WidgetForge.Proofs.Json.Fields

/-!
# Schemas and decoders agree

A caller is given the schema of a record as a value. Which values satisfy a schema is a matter of
the schema language alone (`Satisfies`); nothing of the decoder goes into it. A record may also be
given as an array, of which the schema tells the order and what may be left out at the end
(`Lists`). The decoder takes a value just if it repeats no key and satisfies the schema or lists
what it asks for.
-/

namespace WidgetForge.Json

open Keyed (get? names)

/-! ### The schema language -/

/-- The types of a value. A number is an integer if it is written as one. -/
def Value.types : Value → List String
  | .null => ["null"]
  | .bool _ => ["boolean"]
  | .number (.integer _ _) => ["number", "integer"]
  | .number (.real _) => ["number"]
  | .string _ => ["string"]
  | .array _ => ["array"]
  | .object _ => ["object"]

/-- The words of a schema that ask something of a value. The others only tell about it. -/
def keywords : List String :=
  ["type", "format", "items", "properties", "additionalProperties", "required"]

/-- The value satisfies what all words of the schema ask of it. -/
inductive Satisfies : Value → Value → Prop where
  /-- Each word asks something of some values. -/
  | intro {words : List (String × Value)} {v : Value}
    (type : ∀ t, get? "type" words = some (.string t) → t ∈ v.types)
    (format : ∀ n, get? "format" words = some (.string "int64") → v = .number n →
      ∃ i exact, n = .integer i exact ∧ isInt64 i)
    (items : ∀ s all, get? "items" words = some s → v = .array all → ∀ w ∈ all, Satisfies s w)
    (properties : ∀ fields all, get? "properties" words = some (.object fields) →
      v = .object all → ∀ m ∈ all, ∀ s, (m.1, s) ∈ fields → Satisfies s m.2)
    (additional : ∀ fields all, get? "additionalProperties" words = some (.bool false) →
      get? "properties" words = some (.object fields) → v = .object all →
      ∀ m ∈ all, m.1 ∈ names fields)
    (required : ∀ needed all, get? "required" words = some (.array needed) → v = .object all →
      ∀ name, Value.string name ∈ needed → name ∈ names all) :
    Satisfies (.object words) v

/-- The array lists what the schema asks for: it has a value for each property of an object, in
order, but for some at the end that are not required. -/
def Lists (schema v : Value) : Prop :=
  ∃ words fields all, schema = .object words ∧
    get? "properties" words = some (.object fields) ∧ v = .array all ∧
    all.length ≤ fields.length ∧ (∀ pair ∈ all.zip fields, Satisfies pair.2.2 pair.1) ∧
    ∀ name ∈ names (fields.drop all.length), ∀ needed,
      get? "required" words = some (.array needed) → Value.string name ∉ needed

/-- The value is what a caller may give who goes by the schema. Of a repeated key no schema
speaks. -/
def Follows (schema v : Value) : Prop :=
  v.KeysDistinct ∧ (Satisfies schema v ∨ Lists schema v)

/-! ### What the schemas of records ask for -/

section

variable {words more : List (String × Value)} {v : Value}

/-- Words that only tell something change nothing. -/
theorem satisfies_append (hmore : ∀ name ∈ keywords, name ∉ names more) :
    Satisfies (.object (words ++ more)) v ↔ Satisfies (.object words) v := by
  have hget : ∀ name ∈ keywords, get? name (words ++ more) = get? name words := by
    intro name hname
    rw [Keyed.get?_append, Keyed.get?_eq_none (hmore name hname), Option.or_none]
  have htype := hget "type" (by decide)
  have hformat := hget "format" (by decide)
  have hitems := hget "items" (by decide)
  have hproperties := hget "properties" (by decide)
  have hadditional := hget "additionalProperties" (by decide)
  have hrequired := hget "required" (by decide)
  constructor
  · rintro ⟨type, format, items, properties, additional, required⟩
    rw [htype] at type
    rw [hformat] at format
    rw [hitems] at items
    rw [hproperties] at properties additional
    rw [hadditional] at additional
    rw [hrequired] at required
    exact .intro type format items properties additional required
  · rintro ⟨type, format, items, properties, additional, required⟩
    rw [← htype] at type
    rw [← hformat] at format
    rw [← hitems] at items
    rw [← hproperties] at properties additional
    rw [← hadditional] at additional
    rw [← hrequired] at required
    exact .intro type format items properties additional required

theorem mem_types_string : "string" ∈ v.types ↔ ∃ s, v = .string s := by
  rcases v with _ | _ | (_ | _) | _ | _ | _ <;> simp [Value.types]

theorem mem_types_boolean : "boolean" ∈ v.types ↔ ∃ b, v = .bool b := by
  rcases v with _ | _ | (_ | _) | _ | _ | _ <;> simp [Value.types]

theorem mem_types_integer : "integer" ∈ v.types ↔ ∃ i exact, v = .number (.integer i exact) := by
  rcases v with _ | _ | (⟨_, exact⟩ | _) | _ | _ | _ <;> simp [Value.types]
  exact exact

theorem mem_types_array : "array" ∈ v.types ↔ ∃ all, v = .array all := by
  rcases v with _ | _ | (_ | _) | _ | _ | _ <;> simp [Value.types]

theorem mem_types_object : "object" ∈ v.types ↔ ∃ all, v = .object all := by
  rcases v with _ | _ | (_ | _) | _ | _ | _ <;> simp [Value.types]

/-- A schema that only names a type asks for a value of this type. -/
theorem satisfies_type {t : String} :
    Satisfies (.object [("type", .string t)]) v ↔ t ∈ v.types := by
  constructor
  · rintro ⟨type, -⟩
    exact type t rfl
  · intro ht
    refine .intro ?_ (fun _ h => nomatch h) nofun nofun nofun nofun
    rintro _ ⟨⟩
    exact ht

/-- The words of a kind ask for a value of the kind. -/
theorem satisfies_kind (kind : Kind) : Satisfies (.object kind.members) v ↔ kind.Admits v := by
  induction kind generalizing v with
  | string => exact satisfies_type.trans mem_types_string
  | boolean => exact satisfies_type.trans mem_types_boolean
  | int64 =>
    constructor
    · rintro ⟨type, format, -⟩
      obtain ⟨i, exact, rfl⟩ := mem_types_integer.mp (type "integer" rfl)
      obtain ⟨_, _, ⟨⟩, hi⟩ := format _ rfl rfl
      exact ⟨i, exact, rfl, hi⟩
    · rintro ⟨i, exact, rfl, hi⟩
      refine .intro ?_ ?_ nofun nofun nofun nofun
      · rintro t ⟨⟩
        exact mem_types_integer.mpr ⟨i, exact, rfl⟩
      · rintro n - ⟨⟩
        exact ⟨i, exact, rfl, hi⟩
  | array kind ih =>
    constructor
    · rintro ⟨type, -, items, -⟩
      obtain ⟨all, rfl⟩ := mem_types_array.mp (type "array" rfl)
      exact ⟨all, rfl, fun w hw => ih.mp (items _ all rfl rfl w hw)⟩
    · rintro ⟨all, rfl, hall⟩
      refine .intro ?_ (fun _ h => nomatch h) ?_ nofun nofun nofun
      · rintro t ⟨⟩
        exact mem_types_array.mpr ⟨all, rfl⟩
      · rintro s _ ⟨⟩ ⟨⟩ w hw
        exact ih.mpr (hall w hw)
  | any =>
    exact ⟨fun _ => trivial, fun _ => .intro nofun (fun _ h => nomatch h) nofun nofun nofun nofun⟩

/-- What is said about a member asks for a value of its kind. -/
theorem satisfies_property {p : Property} : Satisfies p.toValue v ↔ p.kind.Admits v := by
  rw [← satisfies_kind p.kind, Property.toValue, List.append_assoc]
  refine satisfies_append fun name hname hmem => ?_
  have hnames : names ([("description", .string p.description)] ++
      p.absent.toList.map ("default", ·)) ⊆ ["description", "default"] := by
    cases p.absent <;> simp [names]
  have hnone : ∀ name ∈ keywords, name ∉ ["description", "default"] := by decide
  exact hnone name hname (hnames hmem)

/-- The words of the schema of an object. -/
def objectWords (s : Schema) : List (String × Value) :=
  [("type", .string "object"), ("additionalProperties", .bool false),
    ("properties", .object (s.properties.map fun p => (p.1, p.2.toValue))),
    ("required", .array (s.required.map .string))]

/-- What stands beside the words of a schema that ask something. -/
def otherWords (s : Schema) : List (String × Value) :=
  s.description.toList.map (fun d => ("description", .string d)) ++
    [("title", .string s.title), ("$schema", .string Schema.edition)]

theorem toValue_schema (s : Schema) : s.toValue = .object (objectWords s ++ otherWords s) := by
  rw [Schema.toValue, List.append_assoc]
  rfl

theorem names_otherWords (s : Schema) : ∀ name ∈ keywords, name ∉ names (otherWords s) := by
  have hnames : names (otherWords s) ⊆ ["description", "title", "$schema"] := by
    cases hdescription : s.description <;> simp [names, otherWords, hdescription]
  have hnone : ∀ name ∈ keywords, name ∉ ["description", "title", "$schema"] := by decide
  exact fun name hname hmem => hnone name hname (hnames hmem)

theorem get?_toValue (s : Schema) {name : String} (hname : name ∈ keywords) :
    get? name (objectWords s ++ otherWords s) = get? name (objectWords s) := by
  rw [Keyed.get?_append, Keyed.get?_eq_none (names_otherWords s name hname), Option.or_none]

/-- **What satisfies a schema that is written down**: the objects that the schema admits. -/
theorem satisfies_schema {s : Schema} (hdistinct : (names s.properties).Nodup) :
    Satisfies s.toValue v ↔ s.Admits v := by
  rw [toValue_schema, satisfies_append (names_otherWords s)]
  constructor
  · rintro ⟨type, -, -, properties, additional, required⟩
    obtain ⟨all, rfl⟩ := mem_types_object.mp (type "object" rfl)
    refine ⟨all, rfl, fun m hm => ?_, fun name hname => ?_⟩
    · obtain ⟨_, hmapped, hname⟩ := List.mem_map.mp (additional _ all rfl rfl rfl m hm)
      obtain ⟨p, hp, rfl⟩ := List.mem_map.mp hmapped
      have hproperty : (m.1, p.2.toValue) ∈ s.properties.map fun p => (p.1, p.2.toValue) :=
        List.mem_map.mpr ⟨p, hp, by rw [hname]⟩
      exact ⟨p.2, hname ▸ hp, satisfies_property.mp (properties _ all rfl rfl m hm _ hproperty)⟩
    · exact required _ all rfl rfl name (List.mem_map_of_mem hname)
  · rintro ⟨all, rfl, hmembers, hrequired⟩
    refine .intro ?_ (fun _ h => nomatch h) nofun ?_ ?_ ?_
    · rintro t ⟨⟩
      exact mem_types_object.mpr ⟨all, rfl⟩
    · rintro fields _ ⟨⟩ ⟨⟩ m hm property hproperty
      obtain ⟨p, hp, heq⟩ := List.mem_map.mp hproperty
      obtain ⟨hname, rfl⟩ := Prod.mk.inj heq
      obtain ⟨q, hq, hadmits⟩ := hmembers m hm
      obtain rfl : p = (m.1, q) := List.inj_on_of_nodup_map hdistinct hp hq hname
      exact satisfies_property.mpr hadmits
    · rintro fields _ - ⟨⟩ ⟨⟩ m hm
      obtain ⟨q, hq, -⟩ := hmembers m hm
      simpa [names] using ⟨q, hq⟩
    · rintro needed _ ⟨⟩ ⟨⟩ name hname
      exact hrequired name (by simpa using hname)

/-- What an array lists that a schema of an object asks for. -/
theorem lists_schema {s : Schema} (hdistinct : (names s.properties).Nodup) :
    Lists s.toValue v ↔ ∃ all, v = .array all ∧ all.length ≤ s.properties.length ∧
      (∀ pair ∈ all.zip s.properties, pair.2.2.kind.Admits pair.1) ∧
      ∀ p ∈ s.properties.drop all.length, p.2.absent.isSome = true := by
  have hproperties : get? "properties" (objectWords s ++ otherWords s) =
      some (.object (s.properties.map fun p => (p.1, p.2.toValue))) := get?_toValue s (by decide)
  have hrequired : get? "required" (objectWords s ++ otherWords s) =
      some (.array (s.required.map .string)) := get?_toValue s (by decide)
  -- a name is required just if its own property says so, for no other property has the name
  have hneeded (p : String × Property) (hp : p ∈ s.properties) :
      Value.string p.1 ∉ s.required.map .string ↔ p.2.absent.isSome = true := by
    simp only [List.mem_map, Value.string.injEq, exists_eq_right, Schema.required, List.mem_filter,
      not_exists, not_and, and_imp]
    constructor
    · intro h
      cases habsent : p.2.absent with
      | some a => rfl
      | none => exact absurd rfl (h p hp (by simp [habsent]))
    · intro habsent q hq hnone hname
      obtain rfl : q = p := List.inj_on_of_nodup_map hdistinct hq hp hname
      cases hq : q.2.absent <;> simp [hq] at habsent hnone
  rw [toValue_schema]
  constructor
  · rintro ⟨words, fields, all, ⟨⟩, hfields, rfl, hlength, hkinds, hleft⟩
    obtain rfl := Value.object.inj (Option.some.inj (hproperties.symm.trans hfields))
    rw [List.length_map] at hlength
    refine ⟨all, rfl, hlength, fun pair hpair => ?_, fun p hp => ?_⟩
    · refine satisfies_property.mp (hkinds (pair.1, pair.2.1, pair.2.2.toValue) ?_)
      rw [List.zip_map_right]
      exact List.mem_map.mpr ⟨pair, hpair, rfl⟩
    · refine (hneeded p (List.mem_of_mem_drop hp)).mp (hleft p.1 ?_ _ hrequired)
      rw [← List.map_drop, names, List.map_map]
      exact List.mem_map.mpr ⟨p, hp, rfl⟩
  · rintro ⟨all, rfl, hlength, hkinds, hleft⟩
    refine ⟨_, _, all, rfl, hproperties, rfl, by rwa [List.length_map], ?_, ?_⟩
    · rw [List.zip_map_right]
      intro pair hpair
      obtain ⟨listed, hlisted, rfl⟩ := List.mem_map.mp hpair
      exact satisfies_property.mpr (hkinds listed hlisted)
    · rw [← List.map_drop, names, List.map_map]
      intro name hname needed hneed
      obtain ⟨p, hp, rfl⟩ := List.mem_map.mp hname
      obtain rfl := Value.array.inj (Option.some.inj (hrequired.symm.trans hneed))
      exact (hneeded p (List.mem_of_mem_drop hp)).mpr (hleft p hp)

end

/-! ### What decoders take -/

/-- A shape that takes nothing but what stands for something of it. -/
def Shape.IsExact : Shape → Prop
  | .text | .path | .int64 | .flag | .texts => True
  | .any | .optional _ => False

instance : DecidablePred Shape.IsExact := fun shape =>
  match shape with
  | .text | .path | .int64 | .flag | .texts => .isTrue trivial
  | .any | .optional _ => .isFalse id

theorem textsOf_eq_ok {all : List Value} {texts : List String} :
    textsOf all = .ok texts ↔ all = texts.map .string := by
  induction all generalizing texts with
  | nil => cases texts <;> simp [textsOf]
  | cons v all ih =>
    rw [textsOf]
    cases v with
    | string s =>
      simp only [textOf]
      cases texts with
      | nil => cases htexts : textsOf all <;> simp [Except.map]
      | cons t texts =>
        cases htexts : textsOf all with
        | error m => simp [Except.map, ← ih, htexts]
        | ok texts' => simp [Except.map, ← ih, htexts]
    | null | bool b | number n | array items | object members => cases texts <;> simp [textOf]

/-- What an exact shape takes for something is what stands for it. -/
theorem ofValue_eq_ok {shape : Shape} (h : shape.IsExact) {v : Value} {a : shape.Carrier} :
    shape.ofValue v = .ok a ↔ v = shape.toValue a := by
  match shape, h with
  | .int64, _ =>
    constructor
    · intro htake
      match v, htake with
      | .number (.integer i exact), htake =>
        simp only [Shape.ofValue] at htake
        split_ifs at htake with hi
        obtain rfl := Except.ok.inj htake
        simp [Shape.toValue, Value.integer, Int64.toInt_ofInt_of_le hi.1 hi.2]
    · rintro rfl
      exact ofValue_toValue (show Shape.int64.IsScalar from trivial) a
  | .text, _ | .path, _ => cases v <;> simp [Shape.ofValue, textOf, Shape.toValue]
  | .flag, _ => cases v <;> simp [Shape.ofValue, Shape.toValue]
  | .texts, _ => cases v <;> simp [Shape.ofValue, Shape.toValue, textsOf_eq_ok]

/-- A value is of the kind of an exact shape if it stands for something of the shape. -/
theorem admits_iff {shape : Shape} (h : shape.IsExact) {v : Value} :
    shape.kind.Admits v ↔ ∃ a, shape.ofValue v = .ok a := by
  simp only [ofValue_eq_ok h]
  match shape, h with
  | .text, _ | .path, _ | .flag, _ => rfl
  | .int64, _ =>
    constructor
    · rintro ⟨i, exact, rfl, hi⟩
      refine ⟨Int64.ofInt i, ?_⟩
      simp [Shape.toValue, Value.integer, Int64.toInt_ofInt_of_le hi.1 hi.2]
    · rintro ⟨a, rfl⟩
      exact ⟨a.toInt, isExact_toInt a, rfl, isInt64_toInt a⟩
  | .texts, _ =>
    constructor
    · rintro ⟨all, rfl, hall⟩
      have hstrings : all ∈ Set.range (List.map Value.string) := by
        rw [Set.range_list_map]
        intro item hitem
        obtain ⟨s, rfl⟩ := hall item hitem
        exact ⟨s, rfl⟩
      obtain ⟨texts, rfl⟩ := hstrings
      exact ⟨texts, rfl⟩
    · rintro ⟨texts, rfl⟩
      refine ⟨_, rfl, fun item hitem => ?_⟩
      obtain ⟨s, -, rfl⟩ := List.mem_map.mp hitem
      exact ⟨s, rfl⟩

namespace Field

variable {f : Field} {given : List Value} {a b : f.shape.Carrier}

/-- A field that may not be absent is decoded from the one value that stands for it. -/
theorem given_of_required (h : f.Decodes given a) (hexact : f.shape.IsExact)
    (habsent : f.absent = none) : given = [f.shape.toValue a] := by
  match given, h with
  | [], h => exact nomatch habsent.symm.trans h
  | [v], h => rw [(ofValue_eq_ok hexact).mp h]

/-- A field that may be absent is decoded from the one value that stands for it, or from nothing. -/
theorem given_of_optional (h : f.Decodes given a) (hexact : f.shape.IsExact)
    (habsent : f.absent = some b) : given = [f.shape.toValue a] ∨ given = [] ∧ a = b := by
  match given, h with
  | [], h => exact .inr ⟨rfl, Option.some.inj (h.symm.trans habsent)⟩
  | [v], h => exact .inl (by rw [(ofValue_eq_ok hexact).mp h])

end Field

section

variable {fs : List Field} {index : Nat}

/-- An object gives a row if something is decoded for each field from the values under its name. -/
theorem exists_from_object {all : List (String × Value)} :
    (∃ row, Row.From (.object all) index fs row) ↔
      ∀ f ∈ fs, ∃ a, f.Decodes (Keyed.valuesOf f.name all) a := by
  induction fs generalizing index with
  | nil => simp [Row.From]
  | cons f fs ih =>
    rw [List.forall_mem_cons, ← @ih (index + 1)]
    constructor
    · rintro ⟨⟨a, row⟩, ha, hrow⟩
      exact ⟨⟨a, ha⟩, row, hrow⟩
    · rintro ⟨⟨a, ha⟩, row, hrow⟩
      exact ⟨(a, row), ha, hrow⟩

/-- An array gives a row if its items are taken for the fields in their places and the fields behind
them may be absent. -/
theorem exists_from_array {all : List Value} :
    (∃ row, Row.From (.array all) index fs row) ↔
      (∀ pair ∈ (all.drop index).zip fs, ∃ a, pair.2.shape.ofValue pair.1 = .ok a) ∧
        ∀ f ∈ fs.drop (all.length - index), f.absent.isSome = true := by
  induction fs generalizing index with
  | nil => simp [Row.From]
  | cons f fs ih =>
    have hcons : (∃ row, Row.From (.array all) index (f :: fs) row) ↔
        (∃ a, f.Decodes (Value.given (.array all) index f.name) a) ∧
          ∃ row, Row.From (.array all) (index + 1) fs row := by
      constructor
      · rintro ⟨⟨a, row⟩, ha, hrow⟩
        exact ⟨⟨a, ha⟩, row, hrow⟩
      · rintro ⟨⟨a, ha⟩, row, hrow⟩
        exact ⟨(a, row), ha, hrow⟩
    rw [hcons, ih, Value.given]
    rcases Nat.lt_or_ge index all.length with hlt | hge
    · have hleft : all.length - index = all.length - (index + 1) + 1 := by omega
      rw [List.getElem?_eq_getElem hlt, List.drop_eq_getElem_cons hlt, List.zip_cons_cons,
        List.forall_mem_cons, hleft, List.drop_succ_cons, and_assoc]
      rfl
    · have hnone : all.length - index = 0 := Nat.sub_eq_zero_of_le hge
      have hnone' : all.length - (index + 1) = 0 := Nat.sub_eq_zero_of_le (Nat.le_succ_of_le hge)
      rw [List.getElem?_eq_none hge, List.drop_of_length_le hge,
        List.drop_of_length_le (Nat.le_succ_of_le hge), hnone, hnone']
      simp [Field.Decodes, Option.isSome_iff_exists]

end

namespace Record

variable {r : Record}

theorem names_properties : Keyed.names r.schema.properties = r.names := by
  simp [schema, Keyed.names, Record.names]

theorem mem_required {name : String} :
    name ∈ r.schema.required ↔ ∃ f ∈ r.fields, f.name = name ∧ f.absent = none := by
  simp only [Schema.required, schema, List.mem_map, List.mem_filter, Option.isNone_iff_eq_none]
  constructor
  · rintro ⟨_, ⟨⟨f, hf, rfl⟩, habsent⟩, rfl⟩
    exact ⟨f, hf, rfl, by simpa using habsent⟩
  · rintro ⟨f, hf, rfl, habsent⟩
    exact ⟨_, ⟨⟨f, hf, rfl⟩, by simp [habsent]⟩, rfl⟩

/-- The decoder takes the arrays that list what the schema asks for. -/
theorem exists_ofArray_iff (hexact : ∀ f ∈ r.fields, f.shape.IsExact) {all : List Value} :
    (r.Holds (.array all) ∧ ∃ row, Row.From (.array all) 0 r.fields row) ↔
      all.length ≤ r.schema.properties.length ∧
        (∀ pair ∈ all.zip r.schema.properties, pair.2.2.kind.Admits pair.1) ∧
        ∀ p ∈ r.schema.properties.drop all.length, p.2.absent.isSome = true := by
  have hkind : ∀ pair ∈ all.zip r.fields,
      (∃ a, pair.2.shape.ofValue pair.1 = .ok a) ↔ pair.2.shape.kind.Admits pair.1 :=
    fun pair hpair => (admits_iff (hexact _ (List.of_mem_zip hpair).2)).symm
  rw [exists_from_array, schema, List.length_map, List.zip_map_right, List.forall_mem_map,
    ← List.map_drop, List.forall_mem_map]
  simp only [Holds, List.drop_zero, Nat.sub_zero, Prod.map_fst, Prod.map_snd, id_eq,
    Option.isSome_map]
  rw [forall₂_congr hkind]

/-- The decoder takes the objects that the schema admits. -/
theorem exists_ofObject_iff (hdistinct : r.names.Nodup) (hclosed : r.closed = true)
    (hexact : ∀ f ∈ r.fields, f.shape.IsExact) {all : List (String × Value)} :
    (r.Holds (.object all) ∧ ∃ row, Row.From (.object all) 0 r.fields row) ↔
      (Keyed.names all).Nodup ∧ r.schema.Admits (.object all) := by
  constructor
  · rintro ⟨hknows, hrow⟩
    have hnodup : (Keyed.names all).Nodup := by
      obtain ⟨row, hrow⟩ := hrow
      obtain ⟨d, hd, -⟩ := ofObject_eq_ok.mp ((ofObject_iff hdistinct).mpr ⟨hknows, hrow⟩)
      exact (distinct_of_ofMembers hclosed hd).1
    have hall := exists_from_object.mp hrow
    refine ⟨hnodup, all, rfl, fun m hm => ?_, fun name hname => ?_⟩
    · obtain ⟨f, hf, hname⟩ := List.mem_map.mp (hknows hclosed m.1 (List.mem_map_of_mem hm))
      obtain ⟨a, ha⟩ := hall f hf
      rw [hname, Keyed.valuesOf_eq_singleton hnodup hm] at ha
      exact ⟨_, List.mem_map.mpr ⟨f, hf, by rw [hname]⟩,
        (admits_iff (hexact f hf)).mpr ⟨a, ha⟩⟩
    · obtain ⟨f, hf, rfl, hrequired⟩ := mem_required.mp hname
      obtain ⟨a, ha⟩ := hall f hf
      by_contra hmissing
      rw [Keyed.valuesOf_eq_nil.mpr hmissing, Field.Decodes, hrequired] at ha
      cases ha
  · rintro ⟨hnodup, _, ⟨⟩, hmembers, hrequired⟩
    refine ⟨fun _ name hname => ?_, exists_from_object.mpr fun f hf => ?_⟩
    · obtain ⟨m, hm, rfl⟩ := List.mem_map.mp hname
      obtain ⟨p, hp, -⟩ := hmembers m hm
      obtain ⟨f, hf, heq⟩ := List.mem_map.mp hp
      exact List.mem_map.mpr ⟨f, hf, (Prod.mk.inj heq).1⟩
    · by_cases hgiven : f.name ∈ Keyed.names all
      · obtain ⟨m, hm, hname⟩ := List.mem_map.mp hgiven
        obtain ⟨p, hp, hadmits⟩ := hmembers m hm
        obtain ⟨g, hg, heq⟩ := List.mem_map.mp hp
        obtain ⟨hgname, rfl⟩ := Prod.mk.inj heq
        obtain rfl : g = f := List.inj_on_of_nodup_map hdistinct hg hf (hgname.trans hname)
        rw [← hname, Keyed.valuesOf_eq_singleton hnodup hm]
        exact (admits_iff (hexact g hg)).mp hadmits
      · rw [Keyed.valuesOf_eq_nil.mpr hgiven]
        refine Option.ne_none_iff_exists'.mp fun hnone => hgiven ?_
        exact hrequired f.name (mem_required.mpr ⟨f, hf, rfl, hnone⟩)

/-- **The decoder of a record takes what its schema asks for**: the objects that repeat no key and
satisfy the schema, and the arrays that list what it asks for. -/
theorem exists_ofValue_iff (hdistinct : r.names.Nodup) (hclosed : r.closed = true)
    (hexact : ∀ f ∈ r.fields, f.shape.IsExact) (v : Value) :
    (∃ row, r.ofValue v = .ok row) ↔ Follows r.schema.toValue v := by
  have hproperties : (Keyed.names r.schema.properties).Nodup := by rwa [names_properties]
  rw [Follows, satisfies_schema hproperties, lists_schema hproperties]
  simp only [ofValue_iff hdistinct, exists_and_left]
  cases v with
  | null | bool b | number n | string s => simp [Holds, Schema.Admits]
  | array all =>
    rw [exists_ofArray_iff hexact]
    simp [Value.KeysDistinct, Schema.Admits]
  | object all =>
    rw [exists_ofObject_iff hdistinct hclosed hexact]
    simp [Value.KeysDistinct]

end Record

end WidgetForge.Json
