import WidgetForge.Disk.IoError
import WidgetForge.Disk.Walk

/-!
# What can be done to a tree

Each of these either changes the tree at one place or fails and leaves it as it is.
-/

namespace WidgetForge.Disk.Tree

open Text (Octets)

/-- Makes a folder. -/
def makeFolder (t : Tree) (p : Pathname) : Except IoError Tree :=
  if p.hasNul then .error .nulInPath
  else
    match t.locateLast p with
    | .error e => .error (.os e)
    | .ok (_, none) => .error (.os .entryExists)
    | .ok (folder, some name) =>
      if nameLimit < name.utf8ByteSize then .error (.os .nameTooLong)
      else
        match t.node? (folder ++ [name]) with
        | some _ => .error (.os .entryExists)
        | none =>
          if t.node? folder = some (.folder true) then
            .ok (t.put (folder ++ [name]) (.folder true))
          else .error (.os .noEntry)

/-- Whether a path leads to a folder. -/
def isFolder (t : Tree) (p : Pathname) : Bool :=
  if p.hasNul then false
  else
    match t.locate p with
    | .error _ => false
    | .ok place => t.hasFolder place

/-! ### Temporary files -/

/-- The name of the temporary file with a number. -/
def tempName (n : Nat) : String :=
  let digits := Nat.toDigits 10 n
  ".tmp" ++ String.ofList (List.replicate (6 - digits.length) '0' ++ digits)

/-- A name for a temporary file that is free in a folder. -/
def freeName? (t : Tree) (folder : Location) : Option String :=
  ((List.range (t.nodes.length + 1)).map tempName).find? fun name =>
    (t.node? (folder ++ [name])).isNone

/-- The path of the current folder. -/
def herePath (t : Tree) : Pathname := ⟨"/" ++ "/".intercalate t.here⟩

/-- The place that is named when a temporary file cannot be made in a folder. -/
def tempPlace (t : Tree) (folder : Pathname) : String :=
  ((if folder.isAbsolute then folder else t.herePath.join folder.text).join (tempName 0)).text

/-- The error of a temporary file that cannot be made in a folder. -/
def tempError (t : Tree) (folder : Pathname) (e : IoError) : IoError :=
  .located e (t.tempPlace folder)

/-- Where a path leads, if a temporary file can be made there. -/
def tempFolder (t : Tree) (folder : Pathname) : Except IoError Location :=
  if folder.hasNul then .error .nulInPath
  else if pathLimit ≤ (t.tempPlace folder).utf8ByteSize then .error (.os .nameTooLong)
  else
    match t.locate folder with
    | .error e => .error (.os e)
    | .ok place =>
      match t.node? place with
      | some (.file _) => .error (.os .notFolder)
      | some (.device _) => .error (.os .notFolder)
      | some (.folder true) => .ok place
      | _ => .error (.os .noEntry)

/-- Makes an empty temporary file in a folder. Its name is chosen for the folder and must be free
there. -/
def createTempAs (t : Tree) (folder : Pathname) (choose : Location → Option String) :
    Except IoError (Location × Tree) :=
  match t.tempFolder folder with
  | .error e => .error (t.tempError folder e)
  | .ok place =>
    match choose place with
    | none => .error (t.tempError folder (.os .entryExists))
    | some name =>
      match t.node? (place ++ [name]) with
      | some _ => .error (t.tempError folder (.os .entryExists))
      | none => .ok (place ++ [name], t.put (place ++ [name]) (.file []))

/-- Makes an empty temporary file in a folder, with the first free name. -/
def createTemp (t : Tree) (folder : Pathname) : Except IoError (Location × Tree) :=
  t.createTempAs folder t.freeName?

/-- Adds octets at the end of a file. -/
def append (t : Tree) (place : Location) (octets : Octets) : Except IoError Tree :=
  match t.file? place with
  | none => .error (.os .noEntry)
  | some content => .ok (t.put place (.file (content ++ octets)))

/-- Moves a file to a path, in the place of a file or a symbolic link that stands there. -/
def rename (t : Tree) (source : Location) (target : Pathname) : Except IoError Tree :=
  if target.hasNul then .error (.os .invalid)
  else
    match t.locateLast target with
    | .error e => .error (.os e)
    | .ok (_, none) => .error (.os .busy)
    | .ok (folder, some name) =>
      if nameLimit < name.utf8ByteSize then .error (.os .nameTooLong)
      else if target.endsWithSlash then .error (.os .notFolder)
      else if t.hasFolder (folder ++ [name]) then .error (.os .isFolder)
      else
        match t.file? source with
        | none => .error (.os .noEntry)
        | some content => .ok ((t.erase source).put (folder ++ [name]) (.file content))

/-! ### Whole files -/

/-- What stands where a path leads to. -/
def lookUp (t : Tree) (p : Pathname) : Except IoError Node :=
  if p.hasNul then .error .nulInPath
  else
    match t.locate p with
    | .error e => .error (.os e)
    | .ok place => ((t.node? place).elim (.error (.os .noEntry)) .ok)

/-- The path of what a symbolic link in a folder leads to. -/
def targetPath (folder : Location) (target : Pathname) : Pathname :=
  if target.isAbsolute then target else ⟨"/" ++ "/".intercalate (folder ++ [target.text])⟩

/-- Puts content into a file, which is made if it is not there, past at most `links` symbolic links
that end in it. A device takes it in. -/
def writeFileUpTo (t : Tree) (content : Octets) : Nat → Pathname → Except IoError Tree
  | links, p =>
    if p.hasNul then .error .nulInPath
    else
      match t.locateLast p with
      | .error e => .error (.os e)
      | .ok (_, none) => .error (.os .isFolder)
      | .ok (folder, some name) =>
        if nameLimit < name.utf8ByteSize then .error (.os .nameTooLong)
        else if p.endsWithSlash then .error (.os .isFolder)
        else
          match t.node? (folder ++ [name]), links with
          | some (.folder _), _ => .error (.os .isFolder)
          | some (.device _), _ => .ok t
          | some (.file _), _ => .ok (t.put (folder ++ [name]) (.file content))
          | some (.link _), 0 => .error (.os .tooManyLinks)
          | some (.link target), links + 1 =>
            writeFileUpTo t content links (targetPath folder target)
          | none, _ =>
            if t.node? folder = some (.folder true) then
              .ok (t.put (folder ++ [name]) (.file content))
            else .error (.os .noEntry)

/-- Puts content into a file, which is made if it is not there. A device takes it in. -/
def writeFile (t : Tree) (p : Pathname) (content : Octets) : Except IoError Tree :=
  t.writeFileUpTo content linkLimit p

/-- Takes away a file or a symbolic link, or a folder with all that is in it. -/
def remove (t : Tree) (p : Pathname) : Except IoError Tree :=
  if p.hasNul then .error .nulInPath
  else
    match t.locateEntry p with
    | .error e => .error (.os e)
    | .ok place => .ok (t.prune place)

end WidgetForge.Disk.Tree
