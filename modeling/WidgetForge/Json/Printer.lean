import WidgetForge.Json.Value
import WidgetForge.Text.Hexadecimal

/-!
# Writing JSON

The compact form has no blanks. The laid-out form puts every item and member on a line of its own,
two columns further in than the bracket around it. A string is written between double quotes; a
quote, a backslash and the control characters are escaped, and all else stands as it is.
-/

namespace WidgetForge.Json

/-- A character as it stands inside a string. -/
def escapedChar (c : Char) : List Char :=
  if c = '"' then ['\\', '"']
  else if c = '\\' then ['\\', '\\']
  else if c = '\n' then ['\\', 'n']
  else if c = '\r' then ['\\', 'r']
  else if c = '\t' then ['\\', 't']
  else if c.toNat = 8 then ['\\', 'b']
  else if c.toNat = 12 then ['\\', 'f']
  else if c.toNat < 32 then
    ['\\', 'u', '0', '0', Text.Hexadecimal.digit (c.toNat / 16),
      Text.Hexadecimal.digit (c.toNat % 16)]
  else [c]

/-- A string in quotes. -/
def writeString (s : String) : List Char :=
  '"' :: (s.toList.flatMap escapedChar ++ ['"'])

mutual

/-- The compact form of a value. -/
def Value.write : Value → List Char
  | .null => "null".toList
  | .bool true => "true".toList
  | .bool false => "false".toList
  | .number n => n.text.toList
  | .string s => writeString s
  | .array items => '[' :: (writeItems items ++ [']'])
  | .object members => '\x7b' :: (writeMembers members ++ ['\x7d'])

/-- The items, with commas between them. -/
def writeItems : List Value → List Char
  | [] => []
  | [v] => v.write
  | v :: rest => v.write ++ ',' :: writeItems rest

/-- The members, with commas between them. -/
def writeMembers : List (String × Value) → List Char
  | [] => []
  | [(k, v)] => writeString k ++ ':' :: v.write
  | (k, v) :: rest => writeString k ++ ':' :: (v.write ++ ',' :: writeMembers rest)

end

/-- The compact text of a value. -/
def Value.text (v : Value) : String := String.ofList v.write

/-- The start of a line `depth` levels in. -/
def newLine (depth : Nat) : List Char := '\n' :: List.replicate (2 * depth) ' '

mutual

/-- The laid-out form of a value `depth` levels in. -/
def Value.layOut (depth : Nat) : Value → List Char
  | .array [] => "[]".toList
  | .array items => '[' :: (layOutItems (depth + 1) items ++ newLine depth ++ [']'])
  | .object [] => "\x7b\x7d".toList
  | .object members => '\x7b' :: (layOutMembers (depth + 1) members ++ newLine depth ++ ['\x7d'])
  | .null => "null".toList
  | .bool true => "true".toList
  | .bool false => "false".toList
  | .number n => n.text.toList
  | .string s => writeString s

/-- The items, each on a line of its own. -/
def layOutItems (depth : Nat) : List Value → List Char
  | [] => []
  | [v] => newLine depth ++ v.layOut depth
  | v :: rest => newLine depth ++ v.layOut depth ++ ',' :: layOutItems depth rest

/-- The members, each on a line of its own. -/
def layOutMembers (depth : Nat) : List (String × Value) → List Char
  | [] => []
  | [(k, v)] => newLine depth ++ writeString k ++ ": ".toList ++ v.layOut depth
  | (k, v) :: rest =>
    newLine depth ++ writeString k ++ ": ".toList ++ v.layOut depth ++
      ',' :: layOutMembers depth rest

end

/-- The laid-out text of a value. -/
def Value.laidOut (v : Value) : String := String.ofList (v.layOut 0)

end WidgetForge.Json
