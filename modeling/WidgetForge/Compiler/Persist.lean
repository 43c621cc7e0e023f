import WidgetForge.Compiler.Error
import WidgetForge.Disk.Save
import WidgetForge.Widget.Script

/-!
# Where scripts go

A script goes into the widgets folder, which is made if it is missing. If that fails for whatever
reason, or there is no such folder, the operator is asked once for another place.
-/

namespace WidgetForge.Compiler

open Disk Operator Text Widget

/-- What became of a script. -/
inductive Fate where
  /-- It stands at this path. -/
  | saved (path : Pathname)
  /-- The operator declined. -/
  | cancelled
  /-- It could not be saved. -/
  | failed (e : SaveError)

/-- Saves a script into the widgets folder. -/
def saveDirect (folder : Option Pathname) (fileName : String) (content : Octets) :
    Procedure (Except SaveError Pathname) :=
  match folder with
  | none =>
    .done (.error (.direct ⟨fileName⟩ (.other "no application support directory available")))
  | some folder =>
    (makeFolders folder).bind fun made =>
      match made with
      | .error e => .done (.error (.direct (folder.join fileName) e))
      | .ok () =>
        (Disk.save (folder.join fileName) content).map fun saved =>
          match saved with
          | .error e => .error (.direct (folder.join fileName) e)
          | .ok () => .ok (folder.join fileName)

/-- The question where a script is to be saved instead. -/
def promptFor (folder : Option Pathname) (fileName : String) : Prompt :=
  ⟨fileName, (Pathname.extension? ⟨fileName⟩).getD "", folder⟩

/-- Saves a script where the operator says. -/
def saveChosen (folder : Option Pathname) (fileName : String) (content : Octets) : Procedure Fate :=
  .step (.ask (promptFor folder fileName)) fun answer =>
    match answer with
    | .error e => .done (.failed (.picker e))
    | .ok none => .done .cancelled
    | .ok (some path) =>
      (Disk.save path content).map fun saved =>
        match saved with
        | .error e => .failed (.chosen path e)
        | .ok () => .saved path

/-- Saves a script. -/
def persist (folder : Option Pathname) (fileName : String) (artifact : Artifact) : Procedure Fate :=
  (saveDirect folder fileName (Utf8.encode artifact.text)).bind fun saved =>
    match saved with
    | .ok path => .done (.saved path)
    | .error _ => saveChosen folder fileName (Utf8.encode artifact.text)

end WidgetForge.Compiler
