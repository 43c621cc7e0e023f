import WidgetForge.Disk.IoError
import WidgetForge.Disk.Pathname
import WidgetForge.Widget.Violation

/-!
# What can go wrong with a widget

A request may be refused, or its script may not be saved. Each error has a kind, which is a fixed
word for programs, and a wording for people.
-/

namespace WidgetForge.Compiler

open Disk Widget

/-- Why a script is not saved. -/
inductive SaveError where
  /-- It could not be written into the widgets folder. -/
  | direct (path : Pathname) (cause : IoError)
  /-- The operator declined to name another place. -/
  | cancelled
  /-- It could not be written to the place that the operator named. -/
  | chosen (path : Pathname) (cause : IoError)
  /-- The operator could not be asked. -/
  | picker (cause : IoError)
  deriving DecidableEq

/-- Why there is no widget. -/
inductive CompileError where
  /-- The request is refused. -/
  | violation (v : Violation)
  /-- The script is not saved. -/
  | save (e : SaveError)
  /-- Something else happened. -/
  | unexpected (text : String)
  deriving DecidableEq

/-- The kind of an error. -/
def SaveError.kind : SaveError → String
  | .direct _ _ => "direct_write_failed"
  | .cancelled => "fallback_cancelled"
  | .chosen _ _ => "fallback_write_failed"
  | .picker _ => "picker_failed"

/-- The wording of an error. -/
def SaveError.message : SaveError → String
  | .direct path cause => "Could not write widget to " ++ path.text ++ ": " ++ cause.message
  | .cancelled => "File save operation cancelled by user"
  | .chosen path cause => "Error writing file " ++ path.text ++ ": " ++ cause.message
  | .picker cause => "Destination picker failed: " ++ cause.message

/-- What lies behind an error. -/
def SaveError.cause? : SaveError → Option IoError
  | .direct _ cause => some cause
  | .cancelled => none
  | .chosen _ cause => some cause
  | .picker cause => some cause

/-- The kind of an error. -/
def CompileError.kind : CompileError → String
  | .violation v => v.kind
  | .save e => e.kind
  | .unexpected _ => "unexpected"

/-- The wording of an error. -/
def CompileError.message : CompileError → String
  | .violation v => v.message
  | .save e => e.message
  | .unexpected text => "Unexpected error: " ++ text

/-- The wordings of an error and of what lies behind it. -/
def CompileError.chain : CompileError → List String
  | .save e => e.message :: (e.cause?.map IoError.message).toList
  | e => [e.message]

/-- The line that reports an error. -/
def CompileError.status (e : CompileError) : String := "Widget generation failed: " ++ e.message

end WidgetForge.Compiler
