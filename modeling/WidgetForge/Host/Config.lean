import WidgetForge.Compiler.Options
import WidgetForge.Document
import WidgetForge.Host.Instructions
import WidgetForge.Json.Record

/-!
# Configurations of a host

A configuration is a JSON object in a file. All its members may be absent; without a file all of
them are.
-/

namespace WidgetForge.Host

open Disk Json

/-- A configuration. -/
structure Config where
  /-- The file that holds the instructions for the agent. -/
  instructionsPath : Option Pathname
  /-- The folder into which scripts are saved. -/
  folder : Option Pathname
  /-- The file name of a script. -/
  fileName : Option String
  /-- Whether every style variable has to be used. -/
  strict : Bool
  /-- The program that asks the operator, and its arguments. -/
  picker : Option (List String)
  deriving DecidableEq

namespace Config

/-- A configuration in JSON. -/
def record : Record where
  name := "AgentConfig"
  subject := "struct AgentConfig"
  about := none
  fields :=
    [⟨"instructions_path", .optional .path, "The instructions for the agent.", some none⟩,
      ⟨"widget_dir", .optional .path, "The folder into which scripts are saved.", some none⟩,
      ⟨"file_name", .optional .text, "The file name of a script.", some none⟩,
      ⟨"strict_styles", .flag, "Whether every style variable has to be used.", some false⟩,
      ⟨"picker_command", .optional .texts, "The program that asks the operator.", some none⟩]
  closed := true

/-- The configuration that a row holds. -/
def ofRow : Row record.fields → Config
  | (instructions, folder, fileName, strict, picker, ()) =>
    ⟨instructions.map Pathname.mk, folder.map Pathname.mk, fileName, strict, picker⟩

/-- The row that holds a configuration. -/
def toRow (c : Config) : Row record.fields :=
  (c.instructionsPath.map Pathname.text, c.folder.map Pathname.text, c.fileName, c.strict, c.picker,
    ())

/-- Decodes a configuration from a text. -/
def parse (text : String) : Except Error Config := (record.parse text).map ofRow

/-- A configuration as a value. -/
def toValue (c : Config) : Value := record.toValue c.toRow

/-- The configuration if there is no file. -/
def standard : Config := ⟨none, none, none, false, none⟩

/-- Loads the configuration from a file, if there is one. -/
def load : Option Pathname → Procedure (Except Document.Error Config)
  | none => .done (.ok standard)
  | some path => Document.load "config" path parse

/-- Reads the instructions. -/
def instructions (c : Config) : Procedure (Except Document.Error String) :=
  match c.instructionsPath with
  | none => .done (.ok standardInstructions)
  | some path => Document.read "instructions" path

/-- The options of the compiler. -/
def options (c : Config) (e : Compiler.Environment) : Compiler.Options where
  folder := c.folder.or e.widgetsFolder
  fileName := c.fileName.getD Compiler.defaultFileName
  strict := c.strict
  verbose := false

end Config

end WidgetForge.Host
