import WidgetForge.Compiler.Compile
import WidgetForge.Tool.Basic

/-!
# The tool that compiles widgets
-/

namespace WidgetForge.Tool

open Compiler Widget

/-- The name of the tool. -/
def compileName : String := "OutputUbersichtWidget"

/-- How a call ends that has been reported. -/
def Result.ofReport (report : Report) : Result :=
  match report.error with
  | none => .line report.status
  | some e => .failed (.compile e)

/-- The tool that compiles a request and saves the script. -/
def compile (o : Options) : Tool where
  name := compileName
  description := "Generates an Übersicht widget from its properties, saves it to the Übersicht " ++
    "widgets folder and returns a confirmation message."
  parameters := Request.record.schema.toValue
  call := fun arguments =>
    match Request.ofValue arguments with
    | .error m => .done (.failed (.arguments compileName m.error))
    | .ok r => (run o r).map Result.ofReport

end WidgetForge.Tool
