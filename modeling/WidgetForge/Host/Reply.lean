import WidgetForge.Json.Printer
import WidgetForge.Tool.Basic

/-!
# Replies to the agent

A reply is one line of JSON. It carries the identifier of the message that it answers, or `null` if
no message could be made out.
-/

namespace WidgetForge.Host

open Json Tool

/-- What a reply says about an error. -/
structure ErrorBody where
  /-- The kind of the error. -/
  kind : String
  /-- Its wording. -/
  message : String
  deriving DecidableEq

/-- A reply. -/
inductive Reply where
  /-- The specifications of the tools. -/
  | tools (id : Value) (instructions : String) (specs : List Spec)
  /-- The outcome of a call, or of a line that is no message. -/
  | result (id : Value) (output : String) (error : Option ErrorBody)

/-- What a reply says about an error of a tool. -/
def ErrorBody.of (e : Tool.Error) : ErrorBody := ⟨e.kind, e.message⟩

/-- What a reply says about an error, as a value. -/
def ErrorBody.toValue (e : ErrorBody) : Value :=
  .object [("kind", .string e.kind), ("message", .string e.message)]

namespace Reply

/-- The reply to a call. -/
def ofOutput (id : Value) (output : Output) : Reply :=
  .result id output.text (output.error.map ErrorBody.of)

/-- The reply to a line that is no message. -/
def malformed (reason : String) : Reply :=
  .result .null ("Malformed request: " ++ reason) (some ⟨"malformed_request", reason⟩)

/-- A reply as a value. -/
def toValue : Reply → Value
  | .tools id instructions specs =>
    .object [("id", id), ("instructions", .string instructions),
      ("tools", .array (specs.map Spec.toValue))]
  | .result id output error =>
    .object ([("id", id), ("output", .string output)] ++
      (error.map fun e => ("error", e.toValue)).toList)

/-- The line of a reply, with its line feed. -/
def line (r : Reply) : String := r.toValue.text ++ "\n"

end Reply

end WidgetForge.Host
