import WidgetForge.Disk.OsError
import WidgetForge.Disk.Tree

/-!
# Following paths in a tree

A path is followed name by name from the root or the current folder. A dot stays, and a pair of dots
goes back to the folder above; every other name must stand in the folder that has been reached. At a
symbolic link the names of its target come first, from the root or from the folder of the link.
-/

namespace WidgetForge.Disk

/-- The most octets of a name. -/
def nameLimit : Nat := 255

/-- The least octets of a text that is too long for a path. -/
def pathLimit : Nat := 4096

/-- The most symbolic links that are followed on the way to one location. -/
def linkLimit : Nat := 40

/-- Where a path begins that is followed from a folder. -/
def Pathname.startFrom (p : Pathname) (folder : Location) : Location :=
  if p.isAbsolute then [] else folder

/-- The names that are followed at a link to a path. A slash at the end asks for a folder, as a dot
does. -/
def Pathname.steps (p : Pathname) : List String :=
  if p.endsWithSlash then p.names ++ ["."] else p.names

namespace Tree

/-- Follows names from a location. At a symbolic link `follow` goes on: it is given the folder of
the link, its target and the names behind it. -/
def walkWith (t : Tree) (follow : Location → Pathname → List String → Except OsError Location) :
    Location → List String → Except OsError Location
  | place, [] => .ok place
  | place, name :: rest =>
    match t.node? place with
    | none => .error .noEntry
    | some (.file _) => .error .notFolder
    | some (.device _) => .error .notFolder
    | some (.link _) => .error .notFolder
    | some (.folder _) =>
      if name = "." then walkWith t follow place rest
      else if name = ".." then walkWith t follow place.dropLast rest
      else if nameLimit < name.utf8ByteSize then .error .nameTooLong
      else
        match t.node? (place ++ [name]) with
        | none => .error .noEntry
        | some (.link target) => follow place target rest
        | some _ => walkWith t follow (place ++ [name]) rest

/-- Follows a symbolic link and then more names, past at most as many further links. -/
def followUpTo (t : Tree) : Nat → Location → Pathname → List String → Except OsError Location
  | 0, _, _, _ => .error .tooManyLinks
  | n + 1, folder, target, rest =>
    t.walkWith (followUpTo t n) (target.startFrom folder) (target.steps ++ rest)

/-- Follows names from a location. -/
def walk (t : Tree) : Location → List String → Except OsError Location :=
  t.walkWith (t.followUpTo linkLimit)

/-- Where a path begins. -/
def start (t : Tree) (p : Pathname) : Location := p.startFrom t.here

/-- Whether a path can be followed at all. -/
def sound (p : Pathname) : Except OsError Unit :=
  if p.text.isEmpty then .error .noEntry
  else if pathLimit ≤ p.text.utf8ByteSize then .error .nameTooLong
  else .ok ()

/-- The location that a path leads to. A slash at the end asks for a folder. -/
def locate (t : Tree) (p : Pathname) : Except OsError Location :=
  match sound p with
  | .error e => .error e
  | .ok () =>
    match t.walk (t.start p) p.names with
    | .error e => .error e
    | .ok place =>
      if p.endsWithSlash && !t.hasFolder place then .error .notFolder else .ok place

/-- The folder that the last name of a path stands in, and the name, if it is one: the last name of
the root, a dot and a pair of dots are none. -/
def locateLast (t : Tree) (p : Pathname) : Except OsError (Location × Option String) :=
  match sound p with
  | .error e => .error e
  | .ok () =>
    match p.names.reverse with
    | [] => .ok ([], none)
    | name :: before =>
      match t.walk (t.start p) before.reverse with
      | .error e => .error e
      | .ok place =>
        if !t.hasFolder place then .error .notFolder
        else .ok (place, if name = "." || name = ".." then none else some name)

/-- The location that a path names. Unlike `locate` it does not follow a symbolic link that the path
ends in, unless a slash asks for a folder. -/
def locateEntry (t : Tree) (p : Pathname) : Except OsError Location :=
  match t.locateLast p with
  | .ok (folder, some name) =>
    if !p.endsWithSlash && (t.link? (folder ++ [name])).isSome then .ok (folder ++ [name])
    else t.locate p
  | _ => t.locate p

end Tree

end WidgetForge.Disk
