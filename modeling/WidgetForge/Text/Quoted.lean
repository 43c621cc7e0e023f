import WidgetForge.Text.Concealed
import WidgetForge.Text.Hexadecimal

/-!
# Quoted texts in messages

A message shows a foreign text between double quotes. A quote and a backslash inside it are written
after a backslash; tab, line feed, carriage return and NUL have short forms; any other concealed
character is written by its number, and all else stands as it is.
-/

namespace WidgetForge.Text

/-- A character as it stands in a quoted text. -/
def quotedChar (c : Char) : String :=
  if c = '"' then "\\\""
  else if c = '\\' then "\\\\"
  else if c = '\t' then "\\t"
  else if c = '\n' then "\\n"
  else if c = '\r' then "\\r"
  else if c = Char.ofNat 0 then "\\0"
  else if isConcealed c then "\\u\x7b" ++ Hexadecimal.digits c.toNat ++ "\x7d"
  else c.toString

/-- The text between double quotes. -/
def quoted (s : String) : String :=
  "\"" ++ String.join (s.toList.map quotedChar) ++ "\""

end WidgetForge.Text
