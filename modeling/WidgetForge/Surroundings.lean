import WidgetForge.Disk.Calls

/-!
# Surroundings

What a program finds around it and leaves behind: the file tree, the input that nobody has read yet,
and what has been written to the error output. Some files are no files but devices, and one of them
is the input itself: to read it is to read all the rest of the input.
-/

namespace WidgetForge

open Disk Text

/-- What a program finds around it. -/
structure Surroundings where
  /-- The files and folders. -/
  tree : Tree
  /-- The rest of the input. -/
  input : Octets
  /-- What has been written to the error output. -/
  errors : Octets

namespace Surroundings

/-- A file tree, with an empty input and nothing written yet. -/
def ofTree (tree : Tree) : Surroundings := ⟨tree, [], []⟩

/-- Reads a device. -/
def readDevice (s : Surroundings) : Device → Except IoError Octets × Surroundings
  | .nothing | .output | .errors => (.ok [], s)
  | .input => (.ok s.input, { s with input := [] })
  | .terminal => (.error (.os .noDevice), s)

/-- Reads the whole of a file. -/
def readFile (s : Surroundings) (p : Pathname) : Except IoError Octets × Surroundings :=
  match s.tree.lookUp p with
  | .error e => (.error e, s)
  | .ok (.file content) => (.ok content, s)
  | .ok (.folder _) => (.error (.os .isFolder), s)
  | .ok (.device d) => s.readDevice d
  | .ok (.link _) => (.error (.os .tooManyLinks), s)

/-- Writes to the error output. -/
def complain (s : Surroundings) (octets : Octets) : Surroundings :=
  { s with errors := s.errors ++ octets }

end Surroundings

end WidgetForge
