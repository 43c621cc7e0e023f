import WidgetForge.Json.Record

/-!
# Schemas

A schema tells a caller which values a record is decoded from: an object with the members of the
record and no others, where the members that may not be absent are required. `Schema.Admits` says
which values satisfy a schema, and `Schema.toValue` writes it down as a value.
-/

namespace WidgetForge.Json

/-- What a schema asks of a value. -/
inductive Kind where
  /-- A string. -/
  | string
  /-- An integer of 64 bits with a sign. -/
  | int64
  /-- A truth value. -/
  | boolean
  /-- An array whose items are of one kind. -/
  | array (items : Kind)
  /-- Any value. -/
  | any

/-- Which values are of a kind. -/
def Kind.Admits : Kind → Value → Prop
  | .string, v => ∃ s, v = .string s
  | .int64, v => ∃ i exact, v = .number (.integer i exact) ∧ isInt64 i
  | .boolean, v => ∃ b, v = .bool b
  | .array items, v => ∃ all, v = .array all ∧ ∀ item ∈ all, items.Admits item
  | .any, _ => True

/-- The members of a schema that name a kind. -/
def Kind.members : Kind → List (String × Value)
  | .string => [("type", .string "string")]
  | .int64 => [("type", .string "integer"), ("format", .string "int64")]
  | .boolean => [("type", .string "boolean")]
  | .array items => [("type", .string "array"), ("items", .object items.members)]
  | .any => []

/-- What a schema says about a member. -/
structure Property where
  /-- The kind of its values. -/
  kind : Kind
  /-- What it means. -/
  description : String
  /-- Its value when it is absent, if it may be. -/
  absent : Option Value

/-- What a schema says about an object. -/
structure Schema where
  /-- The name of the record. -/
  title : String
  /-- What it means. -/
  description : Option String
  /-- Its members. -/
  properties : List (String × Property)

/-- The members that must be present. -/
def Schema.required (s : Schema) : List String :=
  (s.properties.filter fun p => p.2.absent.isNone).map Prod.fst

/-- Which values satisfy a schema: the objects whose members all are known and of the right kind,
and that lack no required member. -/
def Schema.Admits (s : Schema) (v : Value) : Prop :=
  ∃ members, v = .object members ∧
    (∀ member ∈ members, ∃ p, (member.1, p) ∈ s.properties ∧ p.kind.Admits member.2) ∧
    ∀ name ∈ s.required, name ∈ members.map Prod.fst

/-- A property, written down. -/
def Property.toValue (p : Property) : Value :=
  .object (p.kind.members ++ [("description", .string p.description)] ++
    p.absent.toList.map ("default", ·))

/-- The edition of the schema language. -/
def Schema.edition : String := "https://json-schema.org/draft/2020-12/schema"

/-- A schema, written down. -/
def Schema.toValue (s : Schema) : Value :=
  .object ([("type", .string "object"), ("additionalProperties", .bool false),
      ("properties", .object (s.properties.map fun p => (p.1, p.2.toValue))),
      ("required", .array (s.required.map .string))] ++
    s.description.toList.map (fun d => ("description", .string d)) ++
    [("title", .string s.title), ("$schema", .string Schema.edition)])

/-- The kind of the values that a shape takes. -/
def Shape.kind : Shape → Kind
  | .text => .string
  | .path => .string
  | .int64 => .int64
  | .flag => .boolean
  | .texts => .array .string
  | .any => .any
  | .optional _ => .any

/-- The schema of a record. -/
def Record.schema (r : Record) : Schema where
  title := r.name
  description := r.about
  properties := r.fields.map fun f =>
    (f.name, ⟨f.shape.kind, f.about, f.absent.map f.shape.toValue⟩)

end WidgetForge.Json
