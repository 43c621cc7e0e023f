import WidgetForge.Json.Number
import WidgetForge.Keyed

/-!
# JSON values

A value of a JSON text. An object is the list of its members in the order in which the text has
them. A text may repeat a key: as it is read, the object has all members; `Value.settle` leaves one
member for each key, with the last value in the first position, at every depth.
-/

namespace WidgetForge.Json

/-- A value. -/
inductive Value where
  /-- The value `null`. -/
  | null
  /-- A truth, `true` or `false`. -/
  | bool (value : Bool)
  /-- A number. -/
  | number (value : Number)
  /-- A string. -/
  | string (value : String)
  /-- An array. -/
  | array (items : List Value)
  /-- An object, with its members in order. -/
  | object (members : List (String × Value))

instance : Inhabited Value := ⟨.null⟩

/-- An integer that is known to be in range. -/
def Value.integer (i : Int) (exact : isExact i) : Value := .number (.integer i exact)

mutual

/-- Leaves one member for each key of every object in the value. -/
def Value.settle : Value → Value
  | .array items => .array (settleItems items)
  | .object members => .object (Keyed.ofList (settleMembers members))
  | .null => .null
  | .bool b => .bool b
  | .number n => .number n
  | .string s => .string s

/-- Settles each item. -/
def settleItems : List Value → List Value
  | [] => []
  | v :: rest => v.settle :: settleItems rest

/-- Settles the value of each member. -/
def settleMembers : List (String × Value) → List (String × Value)
  | [] => []
  | (k, v) :: rest => (k, v.settle) :: settleMembers rest

end

end WidgetForge.Json
