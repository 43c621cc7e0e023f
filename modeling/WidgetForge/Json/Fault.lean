import WidgetForge.Json.Value
import WidgetForge.Text.Quoted
import WidgetForge.Text.Utf8

/-!
# What can be wrong with a JSON text

Two kinds of faults: the text is not JSON, or the value is not what was asked for. While a text is
read a fault carries how many octets of the text lie behind its place, which is enough to find the
line and the column; a fault in a value that no longer has a text carries no place. A column counts
octets, and a line feed stands in column zero of the line that it begins.
-/

namespace WidgetForge.Json

/-- What a value is, for messages. -/
inductive Found where
  /-- The value `null`. -/
  | null
  /-- A truth value. -/
  | bool (value : Bool)
  /-- An integer. -/
  | integer (value : Int)
  /-- A number that is not an integer of 64 bits. -/
  | real (value : Float)
  /-- A string. -/
  | string (value : String)
  /-- An array. -/
  | array
  /-- An object. -/
  | object

/-- What a value is. -/
def Value.found : Value → Found
  | .null => .null
  | .bool b => .bool b
  | .number (.integer i _) => .integer i
  | .number (.real x) => .real x
  | .string s => .string s
  | .array _ => .array
  | .object _ => .object

/-- The wording of a found value. -/
def Found.message : Found → String
  | .null => "null"
  | .bool b => "boolean `" ++ (if b then "true" else "false") ++ "`"
  | .integer i => "integer `" ++ toString i ++ "`"
  | .real x => "floating point `" ++ realText x ++ "`"
  | .string s => "string " ++ Text.quoted s
  | .array => "sequence"
  | .object => "map"

/-- Why a value is not what was asked for. -/
inductive Mismatch where
  /-- Another kind of value was asked for. -/
  | kind (found : Found) (expected : String)
  /-- The integer is out of range. -/
  | range (value : Int) (expected : String)
  /-- The array is too short or too long. -/
  | length (length : Nat) (expected : String)
  /-- There is no member of this name. -/
  | unknownField (name : String) (known : List String)
  /-- There is no alternative of this name. -/
  | unknownVariant (name : String) (known : List String)
  /-- A member is absent. -/
  | missingField (name : String)
  /-- A member is given twice. -/
  | duplicateField (name : String)

/-- Names between backticks: one alone, two with `or`, more as a list after `one of`. -/
def alternatives (names : List String) : String :=
  match names.map fun n => "`" ++ n ++ "`" with
  | [] => "there are no fields"
  | [a] => "expected " ++ a
  | [a, b] => "expected " ++ a ++ " or " ++ b
  | all => "expected one of " ++ ", ".intercalate all

/-- The wording of a mismatch. -/
def Mismatch.message : Mismatch → String
  | .kind found expected => "invalid type: " ++ found.message ++ ", expected " ++ expected
  | .range value expected =>
    "invalid value: integer `" ++ toString value ++ "`, expected " ++ expected
  | .length n expected => "invalid length " ++ toString n ++ ", expected " ++ expected
  | .unknownField name known => "unknown field `" ++ name ++ "`, " ++ alternatives known
  | .unknownVariant name known => "unknown variant `" ++ name ++ "`, " ++ alternatives known
  | .missingField name => "missing field `" ++ name ++ "`"
  | .duplicateField name => "duplicate field `" ++ name ++ "`"

/-- Why a text cannot be read. -/
inductive Cause where
  /-- The text ends where a value has to begin or go on. -/
  | endInValue
  /-- The text ends inside an object. -/
  | endInObject
  /-- The text ends inside an array. -/
  | endInArray
  /-- The text ends inside a string. -/
  | endInString
  /-- No value begins here. -/
  | noValue
  /-- A word other than `null`, `true` and `false`. -/
  | noWord
  /-- A key is not followed by a colon. -/
  | noColon
  /-- A member is not followed by a comma or the closing bracket. -/
  | noMemberEnd
  /-- An item is not followed by a comma or the closing bracket. -/
  | noItemEnd
  /-- A key is not a string. -/
  | keyNotString
  /-- A comma before the closing bracket. -/
  | trailingComma
  /-- Something follows where nothing may. -/
  | trailing
  /-- A number is not well written. -/
  | badNumber
  /-- A number is too large. -/
  | hugeNumber
  /-- A backslash is followed by none of the characters that it escapes. -/
  | badEscape
  /-- The first half of a surrogate pair is not followed by an escape. -/
  | halfEscape
  /-- A surrogate stands alone. -/
  | loneSurrogate
  /-- A control character inside a string. -/
  | control
  /-- Brackets are nested too deeply. -/
  | tooDeep
  /-- The text is JSON up to here but its value is not what was asked for. -/
  | mismatch (m : Mismatch)

/-- The wording of a cause. -/
def Cause.message : Cause → String
  | .endInValue => "EOF while parsing a value"
  | .endInObject => "EOF while parsing an object"
  | .endInArray => "EOF while parsing a list"
  | .endInString => "EOF while parsing a string"
  | .noValue => "expected value"
  | .noWord => "expected ident"
  | .noColon => "expected `:`"
  | .noMemberEnd => "expected `,` or `\x7d`"
  | .noItemEnd => "expected `,` or `]`"
  | .keyNotString => "key must be a string"
  | .trailingComma => "trailing comma"
  | .trailing => "trailing characters"
  | .badNumber => "invalid number"
  | .hugeNumber => "number out of range"
  | .badEscape => "invalid escape"
  | .halfEscape => "unexpected end of hex escape"
  | .loneSurrogate => "lone leading surrogate in hex escape"
  | .control => "control character (\\u0000-\\u001F) found while parsing a string"
  | .tooDeep => "recursion limit exceeded"
  | .mismatch m => m.message

/-- A fault met while a text is read. -/
structure Fault where
  /-- What is wrong. -/
  cause : Cause
  /-- How many octets of the text lie behind the place of the fault. -/
  left : Nat

/-- A fault between what has been read and `rest`. -/
def Fault.before (cause : Cause) (rest : List Char) : Fault := ⟨cause, Text.Utf8.size rest⟩

/-- A fault of the first character of `rest`, which its place includes. -/
def Fault.on (cause : Cause) (rest : List Char) : Fault := ⟨cause, Text.Utf8.size rest - 1⟩

/-- A place in a text. -/
structure Position where
  /-- The line, counted from one. -/
  line : Nat
  /-- The octets between the last line feed and the place. -/
  column : Nat
  deriving DecidableEq, Repr

/-- The position behind one more octet. -/
def Position.next (p : Position) (octet : UInt8) : Position :=
  if octet = 10 then ⟨p.line + 1, 0⟩ else ⟨p.line, p.column + 1⟩

/-- The position behind some octets. -/
def Position.behind (octets : List UInt8) : Position := octets.foldl Position.next ⟨1, 0⟩

/-- A fault as it is reported. -/
structure Error where
  /-- What is wrong. -/
  cause : Cause
  /-- Where, if the value was read from a text. -/
  place : Option Position

/-- Places a fault in its text. -/
def Fault.place (text : String) (f : Fault) : Error :=
  let octets := Text.Utf8.encode text
  ⟨f.cause, some (Position.behind (octets.take (octets.length - f.left)))⟩

/-- A mismatch in a value that has no text. -/
def Mismatch.error (m : Mismatch) : Error := ⟨.mismatch m, none⟩

/-- The wording of an error. -/
def Error.message (e : Error) : String :=
  match e.place with
  | none => e.cause.message
  | some p =>
    e.cause.message ++ " at line " ++ toString p.line ++ " column " ++ toString p.column

end WidgetForge.Json
