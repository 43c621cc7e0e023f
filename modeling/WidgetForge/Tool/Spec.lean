import WidgetForge.Json.Record

/-!
# Specifications of tools

A specification tells an agent what a tool is called, what it does and which arguments it takes. In
JSON it is an object that may have other members as well.
-/

namespace WidgetForge.Tool

open Json

/-- A specification of a tool. -/
structure Spec where
  /-- The name by which it is called. -/
  name : String
  /-- What it does. -/
  description : String
  /-- The schema of its arguments. -/
  parameters : Value

namespace Spec

/-- A specification in JSON. -/
def record : Record where
  name := "ToolSpec"
  subject := "struct ToolSpec"
  about := none
  fields :=
    [⟨"name", .text, "The name by which the tool is called.", none⟩,
      ⟨"description", .text, "What the tool does.", none⟩,
      ⟨"parameters", .any, "The schema of its arguments.", none⟩]
  closed := false

/-- The specification that a row holds. -/
def ofRow : Row record.fields → Spec
  | (name, description, parameters, ()) => ⟨name, description, parameters⟩

/-- Decodes a specification from a text. -/
def parse (text : String) : Except Error Spec := (record.parse text).map ofRow

/-- A specification as a value. -/
def toValue (s : Spec) : Value := record.toValue (s.name, s.description, s.parameters, ())

end Spec

end WidgetForge.Tool
