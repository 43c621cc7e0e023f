import WidgetForge.Tool.Compile
import WidgetForge.Tool.TotalLength

/-!
# Registries of tools

A registry holds tools under their names, in the order of the octets of the names. Of several tools
of one name it holds the last.
-/

namespace WidgetForge.Tool

open Json Text

/-- Whether a name comes before another. -/
def precedes (a b : String) : Bool := Utf8.encode a < Utf8.encode b

/-- A registry. -/
structure Registry where
  /-- The tools, in order. -/
  tools : List Tool

namespace Registry

/-- The registry without tools. -/
def empty : Registry := ⟨[]⟩

/-- Puts a tool into its place among others, or in the place of the tool of its name. -/
def place (tool : Tool) : List Tool → List Tool
  | [] => [tool]
  | t :: rest =>
    if tool.name = t.name then tool :: rest
    else if precedes tool.name t.name then tool :: t :: rest
    else t :: place tool rest

/-- Adds a tool. -/
def register (r : Registry) (tool : Tool) : Registry := ⟨place tool r.tools⟩

/-- The tool of a name. -/
def get? (r : Registry) (name : String) : Option Tool := r.tools.find? fun t => t.name = name

/-- The names of the tools. -/
def names (r : Registry) : List String := r.tools.map Tool.name

/-- The specifications of the tools. -/
def specs (r : Registry) : List Spec := r.tools.map Tool.spec

/-- Calls the tool of a name. -/
def call (r : Registry) (name : String) (arguments : Value) : Procedure Result :=
  match r.get? name with
  | none => .done (.failed (.unknown name))
  | some tool => tool.call arguments

/-- Calls the tool of a name and gives what the agent is told, or the message of a crash. -/
def dispatch (r : Registry) (name : String) (arguments : Value) :
    Procedure (Except String Output) :=
  (r.call name arguments).map Result.output

/-- The registry of a host: the compiler of widgets and the sum of lengths. -/
def standard (o : Compiler.Options) : Registry :=
  (empty.register (compile o)).register TotalLength.tool

end Registry

end WidgetForge.Tool
