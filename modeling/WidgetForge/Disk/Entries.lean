import WidgetForge.Disk.Walk

/-!
# The entries of folders

What stands in a folder, and how an entry is taken away or moved.
-/

namespace WidgetForge.Disk.Tree

open Text

/-- Whether a name comes before another or is the same, by their octets. -/
def inOrder (a b : String) : Bool := Utf8.encode a ≤ Utf8.encode b

/-- The names in a folder, in order. -/
def children (t : Tree) (place : Location) : List String :=
  let names := t.nodes.filterMap fun entry =>
    if !entry.1.isEmpty && entry.1.dropLast = place then entry.1.getLast? else none
  names.mergeSort inOrder

/-- Takes away a file or a symbolic link. -/
def unlink (t : Tree) (p : Pathname) : Except OsError Tree :=
  match t.locateEntry p with
  | .error e => .error e
  | .ok place => if t.hasFolder place then .error .isFolder else .ok (t.erase place)

/-- Makes a symbolic link to a path, at a path where nothing stands. -/
def makeLink (t : Tree) (target p : Pathname) : Except OsError Tree :=
  if target.text.isEmpty then .error .noEntry
  else
    match t.locateLast p with
    | .error e => .error e
    | .ok (_, none) => .error .entryExists
    | .ok (folder, some name) =>
      if nameLimit < name.utf8ByteSize then .error .nameTooLong
      else if (t.node? (folder ++ [name])).isSome then .error .entryExists
      else if p.endsWithSlash || t.node? folder ≠ some (.folder true) then .error .noEntry
      else .ok (t.put (folder ++ [name]) (.link target))

/-- Takes away an empty folder. -/
def removeFolder (t : Tree) (p : Pathname) : Except OsError Tree :=
  match t.locateEntry p with
  | .error e => .error e
  | .ok place =>
    if p.names.getLast? = some "." then .error .invalid
    else if !t.hasFolder place then .error .notFolder
    else if !(t.children place).isEmpty then .error .notEmpty
    else .ok (t.erase place)

/-- The location behind a move of what stands at `source` to `target`. -/
def relocate (source target : Location) (place : Location) : Location :=
  if source.isPrefixOf place then target ++ place.drop source.length else place

/-- Why a node may not take the place of another. -/
def clash (t : Tree) (source target : Location) : Option OsError :=
  match t.node? target with
  | none => none
  | some (.folder _) =>
    if !t.hasFolder source then some .isFolder
    else if (t.children target).isEmpty then none
    else some .notEmpty
  | some _ => if t.hasFolder source then some .notFolder else none

/-- Moves what stands at a path to another, in the place of what stands there. -/
def move (t : Tree) (source target : Pathname) : Except OsError Tree :=
  match t.locateEntry source, t.locateLast target with
  | .error e, _ => .error e
  | _, .error e => .error e
  | .ok _, .ok (_, none) => .error .busy
  | .ok place, .ok (folder, some name) =>
    let goal := folder ++ [name]
    if goal = place then .ok t
    else if place.isPrefixOf goal then .error .invalid
    else if target.endsWithSlash && !t.hasFolder place then .error .notFolder
    else
      match t.clash place goal with
      | some e => .error e
      | none =>
        let cleared := t.erase goal
        .ok { cleared with
          nodes := cleared.nodes.map fun entry => (relocate place goal entry.1, entry.2) }

end WidgetForge.Disk.Tree
