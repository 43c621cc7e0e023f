import WidgetForge.Compiler.Error
import WidgetForge.Json.Fault

/-!
# What can go wrong with a tool call

A call may name no tool, or its arguments may not be those of the tool; else the tool itself may
fail.
-/

namespace WidgetForge.Tool

open Compiler

/-- Why a call failed. -/
inductive Error where
  /-- There is no tool of this name. -/
  | unknown (name : String)
  /-- The arguments are not those of the tool. -/
  | arguments (name : String) (cause : Json.Error)
  /-- The tool failed. -/
  | compile (e : CompileError)

/-- The kind of an error. -/
def Error.kind : Error → String
  | .unknown _ => "unknown_tool"
  | .arguments _ _ => "invalid_arguments"
  | .compile e => e.kind

/-- The wording of an error. -/
def Error.message : Error → String
  | .unknown name => "Unknown tool: " ++ name
  | .arguments name cause => "Invalid arguments for " ++ name ++ ": " ++ cause.message
  | .compile e => e.message

/-- The wordings of an error and of what lies behind it. -/
def Error.chain : Error → List String
  | .arguments name cause => [(Error.arguments name cause).message, cause.message]
  | .compile e => e.chain
  | e => [e.message]

/-- The line that reports an error to the agent. -/
def Error.line : Error → String
  | .compile e => e.status
  | e => e.message

end WidgetForge.Tool
