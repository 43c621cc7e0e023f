import WidgetForge.Procedure.Basic
import WidgetForge.Tool.Error
import WidgetForge.Tool.Spec

/-!
# Tools

A tool takes arguments, which are a JSON value, and answers with a line of text. It may also fail,
or crash.
-/

namespace WidgetForge

/-- How a call of a tool ends. -/
inductive Tool.Result where
  /-- With a line of text. -/
  | line (text : String)
  /-- With an error. -/
  | failed (e : Tool.Error)
  /-- With a crash. -/
  | crashed (message : String)

/-- A tool. -/
structure Tool where
  /-- The name by which it is called. -/
  name : String
  /-- What it does. -/
  description : String
  /-- The schema of its arguments. -/
  parameters : Json.Value
  /-- What a call does. -/
  call : Json.Value → Procedure Tool.Result

namespace Tool

/-- The specification of a tool. -/
def spec (t : Tool) : Spec := ⟨t.name, t.description, t.parameters⟩

/-- What the agent is told about a call. -/
structure Output where
  /-- The line of text. -/
  text : String
  /-- The error behind it, if the call failed. -/
  error : Option Error

/-- What the agent is told about an error. -/
def Output.failed (e : Error) : Output := ⟨e.line, some e⟩

/-- What the agent is told about a call, or the message of the crash that ended it. -/
def Result.output : Result → Except String Output
  | .line text => .ok ⟨text, none⟩
  | .failed e => .ok (.failed e)
  | .crashed message => .error message

end Tool

end WidgetForge
