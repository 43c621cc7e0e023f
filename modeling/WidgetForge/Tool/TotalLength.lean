import WidgetForge.Json.Schema
import WidgetForge.Tool.Basic

/-!
# The total length of strings

The length of a string is the number of its characters.
-/

namespace WidgetForge.Tool.TotalLength

open Json

/-- The sum of the lengths of some strings. -/
def total : List String → Nat
  | [] => 0
  | s :: rest => s.length + total rest

/-- The line that reports the sum. -/
def report (strings : List String) : String :=
  "Total length of all strings: " ++ toString (total strings)

/-- The arguments in JSON. -/
def record : Record where
  name := "TotalLengthArgs"
  subject := "struct TotalLengthArgs"
  about := none
  fields := [⟨"strings", .texts, "An array of strings to calculate the total length of.", none⟩]
  closed := true

/-- Decodes the strings from a value. -/
def ofValue (v : Value) : Except Mismatch (List String) := (record.ofValue v).map Prod.fst

/-- The tool that reports the sum. -/
def tool : Tool where
  name := "TotalLengthOfStrings"
  description := "Calculates the sum of all the lengths of all the strings in the input array " ++
    "and returns the total."
  parameters := record.schema.toValue
  call := fun arguments => .done <|
    match ofValue arguments with
    | .error m => .failed (.arguments "TotalLengthOfStrings" m.error)
    | .ok strings => .line (report strings)

end WidgetForge.Tool.TotalLength
