import WidgetForge.Disk.OsError
import WidgetForge.Text.Quoted

/-!
# Errors of input and output
-/

namespace WidgetForge.Disk

/-- Why reading, writing or asking failed. -/
inductive IoError where
  /-- The operating system refused. -/
  | os (error : OsError)
  /-- Something failed at a place. -/
  | located (error : IoError) (place : String)
  /-- A path holds a NUL character. -/
  | nulInPath
  /-- An argument of a program holds a NUL character. -/
  | nulInArgument
  /-- A file that should be a text is not UTF-8. -/
  | notText
  /-- Nothing more could be written. -/
  | nothingWritten
  /-- Another reason. -/
  | other (text : String)
  deriving DecidableEq, Repr

/-- The wording of an error. -/
def IoError.message : IoError → String
  | .os e => e.message
  | .located e place => e.message ++ " at path " ++ Text.quoted place
  | .nulInPath => "file name contained an unexpected NUL byte"
  | .nulInArgument => "nul byte found in provided data"
  | .notText => "stream did not contain valid UTF-8"
  | .nothingWritten => "failed to write whole buffer"
  | .other text => text

end WidgetForge.Disk
