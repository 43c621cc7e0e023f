import WidgetForge.Json.Shape
import WidgetForge.Json.Skip

/-!
# Records

A record is a description of an object: its members, each with a name, a shape and perhaps a value
for when it is absent. From it come a decoder of values (`Record.ofValue`), a decoder of texts
(`Record.read`) and an encoder (`Record.toValue`). All three speak of a `Row`, one value for each
member in the order of the description.

Both decoders take the members in the order in which they are given, so the first problem in that
order is the one that is reported; an absent member is found last. A record may also be given as an
array of its members in order, where members that may be absent can be left out at the end.

In a text, a problem that concerns no single value is placed behind the closing bracket if that
comes next, and otherwise before whatever comes next.
-/

namespace WidgetForge.Json

/-- A member of a record. -/
structure Field where
  /-- Its name. -/
  name : String
  /-- What is asked of it. -/
  shape : Shape
  /-- What it means. -/
  about : String
  /-- Its value when it is absent, if it may be. -/
  absent : Option shape.Carrier

/-- A description of an object. -/
structure Record where
  /-- Its name. -/
  name : String
  /-- How messages call it. -/
  subject : String
  /-- What it means. -/
  about : Option String
  /-- Its members. -/
  fields : List Field
  /-- Whether other members are refused. -/
  closed : Bool

/-- A value for each member. -/
@[reducible] def Row : List Field → Type
  | [] => Unit
  | f :: fs => f.shape.Carrier × Row fs

/-- A value for each member that has been met. -/
@[reducible] def Draft : List Field → Type
  | [] => Unit
  | f :: fs => Option f.shape.Carrier × Draft fs

/-- The draft before any member has been met. -/
def Draft.blank : (fs : List Field) → Draft fs
  | [] => ()
  | _ :: fs => (none, blank fs)

/-- Decodes the member of this name into the draft; none if there is no such member. A member that
has been met already is the error `again`. The decoder also gives what is left behind the value. -/
def Draft.give {ε σ : Type} (again : ε) (decode : (shape : Shape) → Except ε (shape.Carrier × σ))
    (name : String) : (fs : List Field) → Draft fs → Option (Except ε (Draft fs × σ))
  | [], _ => none
  | f :: fs, (slot, rest) =>
    if f.name = name then
      match slot with
      | some _ => some (.error again)
      | none => some ((decode f.shape).map fun (v, left) => ((some v, rest), left))
    else
      (give again decode name fs rest).map (Except.map fun (draft, left) => ((slot, draft), left))

/-- The row, once all members that are present have been met. -/
def Draft.finish : (fs : List Field) → Draft fs → Except Mismatch (Row fs)
  | [], _ => .ok ()
  | f :: fs, (slot, rest) =>
    match slot.or f.absent with
    | none => .error (.missingField f.name)
    | some v => (finish fs rest).map (v, ·)

/-- The row of members that are all absent; `index` is the place of the first, and `expected` tells
how many there should be. -/
def Row.absent (expected : String) : Nat → (fs : List Field) → Except Mismatch (Row fs)
  | _, [] => .ok ()
  | index, f :: fs =>
    match f.absent with
    | none => .error (.length index expected)
    | some v => (Row.absent expected (index + 1) fs).map (v, ·)

/-- The row that some items give in order, and the items that are left. -/
def Row.ofItems (expected : String) :
    Nat → (fs : List Field) → List Value → Except Mismatch (Row fs × List Value)
  | _, [], items => .ok ((), items)
  | index, f :: fs, [] => (Row.absent expected index (f :: fs)).map (·, [])
  | index, f :: fs, v :: items =>
    match f.shape.ofValue v with
    | .error m => .error m
    | .ok a => (Row.ofItems expected (index + 1) fs items).map fun (row, left) => ((a, row), left)

/-- The members of a row. -/
def Row.members : (fs : List Field) → Row fs → List (String × Value)
  | [], _ => []
  | f :: fs, (a, row) => (f.name, f.shape.toValue a) :: members fs row

namespace Record

variable (r : Record)

/-- The names of the members. -/
def names : List String := r.fields.map Field.name

/-- What messages ask for when an array is too short. -/
def whole : String :=
  r.subject ++ " with " ++ toString r.fields.length ++
    (if r.fields.length = 1 then " element" else " elements")

/-! ### From values -/

/-- Decodes members in order. -/
def ofMembers : Draft r.fields → List (String × Value) → Except Mismatch (Draft r.fields)
  | draft, [] => .ok draft
  | draft, (key, v) :: rest =>
    match Draft.give (Mismatch.duplicateField key)
        (fun shape => (shape.ofValue v).map (·, ())) key r.fields draft with
    | some (.ok (draft, _)) => ofMembers draft rest
    | some (.error m) => .error m
    | none => if r.closed then .error (.unknownField key r.names) else ofMembers draft rest

/-- Decodes the members of an object. -/
def ofObject (members : List (String × Value)) : Except Mismatch (Row r.fields) :=
  match r.ofMembers (Draft.blank r.fields) members with
  | .error m => .error m
  | .ok draft => draft.finish r.fields

/-- Decodes an array, whose whole length is `length`; `excess` is what messages ask for when it is
too long. -/
def ofArray (excess : String) (length : Nat) (items : List Value) :
    Except Mismatch (Row r.fields) :=
  match Row.ofItems r.whole 0 r.fields items with
  | .error m => .error m
  | .ok (row, []) => .ok row
  | .ok (_, _ :: _) => .error (.length length excess)

/-- Decodes a value. -/
def ofValue : Value → Except Mismatch (Row r.fields)
  | .object members => r.ofObject members
  | .array items => r.ofArray "fewer elements in array" items.length items
  | v => .error (.kind v.found r.subject)

/-- Encodes a row as an object. -/
def toValue (row : Row r.fields) : Value := .object (Row.members r.fields row)

/-! ### From texts -/

/-- A problem of an object or array as a whole. -/
def misfit (m : Mismatch) (close : Char) (cs : List Char) : Fault :=
  match skipBlanks cs with
  | [] => .before (.mismatch m) []
  | c :: rest => .before (.mismatch m) (if c = close then rest else c :: rest)

/-- Reads the value of a member, from the colon on. -/
def readMember (depth : Nat) (draft : Draft r.fields) (key : String) : Reader (Draft r.fields) :=
  fun cs =>
    match Draft.give (misfit (.duplicateField key) '\x7d' cs)
        (fun shape =>
          match colon cs with
          | .error f => .error f
          | .ok (_, rest) => shape.read depth rest) key r.fields draft with
    | some result => result
    | none =>
      if r.closed then .error (misfit (.unknownField key r.names) '\x7d' cs)
      else
        match colon cs with
        | .error f => .error f
        | .ok (_, rest) => (skipValue rest).map fun (_, rest) => (draft, rest)

/-- Goes past the closing bracket of an array that has all its items. -/
def closeArray : Reader Unit := fun cs =>
  match skipBlanks cs with
  | [] => .error (.on .endInArray [])
  | c :: rest =>
    if c = ']' then .ok ((), rest)
    else if c = ',' then
      match skipBlanks rest with
      | [] => .error (.on .trailing [])
      | d :: rest => .error (.on (if d = ']' then .trailingComma else .trailing) (d :: rest))
    else .error (.on .trailing (c :: rest))

/-- Reads members as the items of an array and goes past its closing bracket; `index` of them have
been read. -/
def readItems (expected : String) (depth : Nat) : Nat → (fs : List Field) → Reader (Row fs)
  | _, [], cs => closeArray cs
  | index, f :: fs, cs =>
    match nextItem (index == 0) cs with
    | .error e => .error e
    | .ok (false, rest) =>
      match Row.absent expected index (f :: fs) with
      | .error m => .error (.before (.mismatch m) rest)
      | .ok row => .ok (row, rest)
    | .ok (true, rest) =>
      match f.shape.read depth rest with
      | .error e => .error e
      | .ok (a, rest) =>
        (readItems expected depth (index + 1) fs rest).map fun (row, rest) => ((a, row), rest)

/-- Reads a row in brackets that may be nested `depth` deep. -/
def read (depth : Nat) : Reader (Row r.fields) := fun cs =>
  match skipBlanks cs with
  | [] => .error (.on .endInValue [])
  | c :: rest =>
    if c = '\x7b' then
      match depth with
      | 0 => .error (.on .tooDeep (c :: rest))
      | depth + 1 =>
        match members (r.readMember depth) (Draft.blank r.fields) rest with
        | .error f => .error f
        | .ok (draft, rest) =>
          match draft.finish r.fields with
          | .error m => .error (.before (.mismatch m) rest)
          | .ok row => .ok (row, rest)
    else if c = '[' then
      match depth with
      | 0 => .error (.on .tooDeep (c :: rest))
      | depth + 1 => readItems r.whole depth 0 r.fields rest
    else
      readScalar r.subject (fun v => .error (.kind v.found r.subject)) (c :: rest)

/-- Decodes a text. -/
def parse (text : String) : Except Error (Row r.fields) := readText (r.read depthLimit) text

end Record

end WidgetForge.Json
