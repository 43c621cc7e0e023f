import WidgetForge.Json.Reader
import WidgetForge.Text.Identifier

/-!
# Style mappings

A style mapping gives CSS bodies to the names of style variables, in order and each name once. It
comes from a JSON object of strings. A text that is anything else gives the mapping without entries,
so a broken dictionary leaves a widget without styles and never without a script.
-/

namespace WidgetForge.Widget

open Json

/-- A style mapping. -/
structure StyleMapping where
  /-- The names and bodies, in order. -/
  entries : List (String × String)
  /-- No name stands twice. -/
  distinct : (Keyed.names entries).Nodup

namespace StyleMapping

/-- The mapping without entries. -/
def empty : StyleMapping := ⟨[], List.nodup_nil⟩

instance : Inhabited StyleMapping := ⟨empty⟩

/-- The mapping that arises from giving bodies to names in order. -/
def ofList (entries : List (String × String)) : StyleMapping :=
  ⟨Keyed.ofList entries, Keyed.nodup_ofList entries⟩

/-- The members of an object whose values all are strings. -/
def bodies : List (String × Value) → Option (List (String × String))
  | [] => some []
  | (name, .string body) :: rest => (bodies rest).map ((name, body) :: ·)
  | _ :: _ => none

/-- The members that a text lists, if it is an object of strings. Only the last value of a repeated
key has to be a string. -/
def dictionary (text : String) : Option (List (String × String)) :=
  match Value.parse text with
  | .ok (.object members) => bodies members
  | _ => none

/-- The mapping that a text describes. -/
def parse (text : String) : StyleMapping :=
  match dictionary text with
  | some entries => ofList entries
  | none => empty

/-- The names, in order. -/
def names (m : StyleMapping) : List String := Keyed.names m.entries

/-- The first name that is not used in the markup. -/
def firstUnused (m : StyleMapping) (markup : String) : Option String :=
  m.names.find? fun name => !Text.references markup name

end StyleMapping

end WidgetForge.Widget
