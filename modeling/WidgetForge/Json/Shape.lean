import WidgetForge.Json.Reader

/-!
# What may be asked of a member

A shape is a kind of value, together with what a program gets for a value of this kind. A value is
taken in two ways: from a value that has been read already (`Shape.ofValue`), and straight from a
text (`Shape.read`), where a mismatch has a place: behind a value that is wrong, but before the
opening bracket of a wrong array or object, whose inside is not looked at. `Shape.toValue` is the
way back.
-/

namespace WidgetForge.Json

/-- A kind of value. -/
inductive Shape where
  /-- A string. -/
  | text
  /-- A string that names a file or folder. -/
  | path
  /-- An integer of 64 bits with a sign. -/
  | int64
  /-- A truth value. -/
  | flag
  /-- An array of strings. -/
  | texts
  /-- Any value. -/
  | any
  /-- The value `null`, or one of another kind. -/
  | optional (shape : Shape)

/-- What a program gets for a value of a kind. -/
@[reducible] def Shape.Carrier : Shape → Type
  | .text => String
  | .path => String
  | .int64 => Int64
  | .flag => Bool
  | .texts => List String
  | .any => Value
  | .optional shape => Option shape.Carrier

/-- How messages call a kind. -/
def Shape.expected : Shape → String
  | .text => "a string"
  | .path => "path string"
  | .int64 => "i64"
  | .flag => "a boolean"
  | .texts => "a sequence"
  | .any => "any value"
  | .optional shape => shape.expected

/-- Whether an integer fits 64 bits with a sign. -/
def isInt64 (i : Int) : Prop := -0x8000000000000000 ≤ i ∧ i < 0x8000000000000000

instance (i : Int) : Decidable (isInt64 i) := inferInstanceAs (Decidable (_ ∧ _))

/-- The string that a value is. -/
def textOf (expected : String) : Value → Except Mismatch String
  | .string s => .ok s
  | v => .error (.kind v.found expected)

/-- The strings that some values are. -/
def textsOf : List Value → Except Mismatch (List String)
  | [] => .ok []
  | v :: rest =>
    match textOf Shape.text.expected v with
    | .error m => .error m
    | .ok s => (textsOf rest).map (s :: ·)

/-- Takes a value as one of a kind. -/
def Shape.ofValue : (shape : Shape) → Value → Except Mismatch shape.Carrier
  | .text, v => textOf Shape.text.expected v
  | .path, v => textOf Shape.path.expected v
  | .int64, .number (.integer i _) =>
    if isInt64 i then .ok (Int64.ofInt i) else .error (.range i Shape.int64.expected)
  | .int64, v => .error (.kind v.found Shape.int64.expected)
  | .flag, .bool b => .ok b
  | .flag, v => .error (.kind v.found Shape.flag.expected)
  | .texts, .array items => textsOf items
  | .texts, v => .error (.kind v.found Shape.texts.expected)
  | .any, v => .ok v.settle
  | .optional _, .null => .ok none
  | .optional shape, v => (shape.ofValue v).map some

/-- Integers of 64 bits are kept exactly. -/
theorem isExact_toInt (i : Int64) : isExact i.toInt := by
  have low := Int64.le_toInt i
  have high := Int64.toInt_lt i
  unfold isExact
  omega

/-- The value that gives something of a kind back. -/
def Shape.toValue : (shape : Shape) → shape.Carrier → Value
  | .text, s => .string s
  | .path, s => .string s
  | .int64, i => .integer i.toInt (isExact_toInt i)
  | .flag, b => .bool b
  | .texts, all => .array (all.map .string)
  | .any, v => v
  | .optional _, none => .null
  | .optional shape, some a => shape.toValue a

/-- Reads what is not an array or an object, and takes it. -/
def readScalar {α : Type} (expected : String) (take : Value → Except Mismatch α) : Reader α :=
  fun cs =>
  match skipBlanks cs with
  | [] => .error (.on .endInValue [])
  | c :: rest =>
    if c = '[' then .error (.before (.mismatch (.kind .array expected)) (c :: rest))
    else if c = '\x7b' then .error (.before (.mismatch (.kind .object expected)) (c :: rest))
    else
      match scalar (c :: rest) with
      | .error f => .error f
      | .ok (v, rest) =>
        match take v with
        | .error m => .error (.before (.mismatch m) rest)
        | .ok a => .ok (a, rest)

/-- Reads an array of strings `depth` levels from the limit. -/
def readTexts (depth : Nat) : Reader (List String) := fun cs =>
  match skipBlanks cs with
  | c :: rest =>
    if c = '[' then
      match depth with
      | 0 => .error (.on .tooDeep (c :: rest))
      | _ + 1 =>
        (items (fun read cs =>
          (readScalar Shape.text.expected (textOf Shape.text.expected) cs).map
            fun (s, rest) => (s :: read, rest)) [] rest).map
          fun (read, rest) => (read.reverse, rest)
    else
      readScalar Shape.texts.expected
        (fun v => .error (.kind v.found Shape.texts.expected)) (c :: rest)
  | [] => .error (.on .endInValue [])

/-- Reads a value of a kind, `depth` levels from the limit. -/
def Shape.read : (shape : Shape) → Nat → Reader shape.Carrier
  | .text, _ => readScalar Shape.text.expected (Shape.ofValue .text)
  | .path, _ => readScalar Shape.path.expected (Shape.ofValue .path)
  | .int64, _ => readScalar Shape.int64.expected (Shape.ofValue .int64)
  | .flag, _ => readScalar Shape.flag.expected (Shape.ofValue .flag)
  | .texts, depth => readTexts depth
  | .any, depth => fun cs => (value depth cs).map fun (v, rest) => (v.settle, rest)
  | .optional shape, depth => fun cs =>
    match skipBlanks cs with
    | c :: rest =>
      if c = 'n' then word none "ull".toList rest
      else (shape.read depth (c :: rest)).map fun (a, rest) => (some a, rest)
    | [] => .error (.on .endInValue [])

end WidgetForge.Json
