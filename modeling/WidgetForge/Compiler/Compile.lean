import WidgetForge.Compiler.Options
import WidgetForge.Compiler.Persist

/-!
# Compiling requests

A request is checked, its script is generated and saved, and the outcome is reported in one status
line. An operator who declines to save is no error.
-/

namespace WidgetForge.Compiler

open Disk Widget

/-- Generates the script of a request. -/
def generate (o : Options) (r : Request) : Except Violation Artifact :=
  match r.check with
  | .error v => .error v
  | .ok () =>
    match if o.strict then (StyleMapping.parse r.styles).firstUnused r.markup else none with
    | some name => .error (.unusedStyle name)
    | none => .ok (Artifact.of r (StyleMapping.parse r.styles))

/-- A compiled request. -/
structure Output where
  /-- The script. -/
  artifact : Artifact
  /-- Where it was saved, if it was. -/
  savedTo : Option Pathname

/-- The outcome for a script, once its fate is known. -/
def Output.of (artifact : Artifact) : Fate → Except CompileError Output
  | .saved path => .ok ⟨artifact, some path⟩
  | .cancelled => .ok ⟨artifact, none⟩
  | .failed e => .error (.save e)

/-- Generates and saves the script of a request. -/
def compile (o : Options) (r : Request) : Procedure (Except CompileError Output) :=
  match generate o r with
  | .error v => .done (.error (.violation v))
  | .ok artifact => (persist o.folder o.fileName artifact).map (Output.of artifact)

/-- What is reported about a request. -/
structure Report where
  /-- The status line. -/
  status : String
  /-- What went wrong, if anything did. -/
  error : Option CompileError

/-- The status line of a script that was saved. -/
def savedStatus (path : Pathname) : String :=
  "Widget JSX script generated and saved to " ++ path.text

/-- The status line of a script that the operator declined to save. -/
def cancelledStatus : String :=
  "Widget JSX script generated but not saved: " ++ SaveError.cancelled.message

/-- The report of an outcome. -/
def Report.of : Except CompileError Output → Report
  | .ok ⟨_, some path⟩ => ⟨savedStatus path, none⟩
  | .ok ⟨_, none⟩ => ⟨cancelledStatus, none⟩
  | .error e => ⟨e.status, some e⟩

/-- Compiles a request and reports the outcome. -/
def run (o : Options) (r : Request) : Procedure Report := (compile o r).map Report.of

end WidgetForge.Compiler
