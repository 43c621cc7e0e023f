import WidgetForge.Machine.Invocation
import WidgetForge.Text.Split

/-!
# Finding and running programs

A program is found by its name in the folders of a search path, or by its path. Besides the programs
of a library, files that may be run are programs too: their first line names the program that reads
them.
-/

namespace WidgetForge.Library

open Disk Machine Text

/-- The folders of the programs of a library. -/
def folders : List String := ["/usr/bin", "/bin"]

/-- The program of a library at a path. -/
def programAt (library : Library) (path : String) : Option Program :=
  let last := String.ofList ((split '/' path.toList).getLastD [])
  if folders.any fun folder => path = folder ++ "/" ++ last then library last else none

/-- Whether a file may be run. -/
def isRunnable (m : Machine) (path : String) : Bool :=
  match m.tree.locate (pathOf path) with
  | .ok place => m.runnable.contains place && (m.tree.file? place).isSome
  | .error _ => false

/-- The folders of a search path. -/
def searched (path : String) : List String := (split ':' path.toList).map String.ofList

/-- The path of the program of a name. -/
def find? (library : Library) (search name : String) (m : Machine) : Option String :=
  let stands (path : String) : Bool := (programAt library path).isSome || isRunnable m path
  if name.toList.contains '/' then if stands name then some name else none
  else
    let paths := (searched search).map fun folder =>
      if folder.isEmpty then name else folder ++ "/" ++ name
    paths.find? stands

/-- The program and the words with which a file is run: those that its first line names, or a shell.
-/
def interpreterOf (content : String) : String × List String :=
  match content.toList.takeWhile (· ≠ '\n') with
  | '#' :: '!' :: rest =>
    match (split ' ' rest).filter fun w => !w.isEmpty with
    | [] => ("sh", [])
    | program :: words =>
      let name := String.ofList ((split '/' program).getLastD [])
      let argument := String.ofList (List.intercalate [' '] words)
      if name = "env" then (argument, []) else (name, if argument.isEmpty then [] else [argument])
  | _ => ("sh", [])

/-- Runs the program or the file at a path. -/
def runPath (library : Library) (path : String) (p : Invocation) : Act Nat := do
  match programAt library path with
  | some program => program p
  | none =>
    match ← p.contents path with
    | .error _ => return 126
    | .ok content =>
      let (name, words) := interpreterOf content
      match library name with
      | some program => program { p with name := name, arguments := words ++ path :: p.arguments }
      | none => return 127

/-- The search path where none is given. -/
def usualPath : String := "/bin:/usr/bin"

/-- Runs the command that words make, with all else as it is given, or says why it cannot be run. -/
def launch (library : Library) (p : Invocation) (words : List String) :
    Act (Except OsError Nat) := do
  let name := words.headD ""
  match find? library ((p.value? "PATH").getD usualPath) name (← get) with
  | some path =>
    return .ok (← runPath library path { p with name := name, arguments := words.drop 1 })
  | none =>
    let stands := ((← get).tree.locate (pathOf name)).toBool
    return .error (if name.toList.contains '/' && stands then .notPermitted else .noEntry)

end WidgetForge.Library
