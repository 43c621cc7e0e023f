import WidgetForge.Text.Split

/-!
# Paths

A path is a text in which slashes part the names. These are the operations on the text alone, which
never look at a disk: empty names and dots are passed over where that cannot change what the path
means, but a pair of dots is kept, for only the disk can tell where it leads.
-/

namespace WidgetForge.Disk

/-- A path. -/
structure Pathname where
  /-- Its text. -/
  text : String
  deriving DecidableEq, Repr, Inhabited

namespace Pathname

/-- The parts of a path between slashes. -/
def parts (p : Pathname) : List String := (Text.split '/' p.text.toList).map String.ofList

/-- The names in a path. -/
def names (p : Pathname) : List String := p.parts.filter fun part => !part.isEmpty

/-- Whether a path begins at the root. -/
def isAbsolute (p : Pathname) : Bool := p.text.toList.head? == some '/'

/-- Whether a path ends with a slash. -/
def endsWithSlash (p : Pathname) : Bool := p.text.toList.getLast? == some '/'

/-- Whether a path holds a NUL character. -/
def hasNul (p : Pathname) : Bool := p.text.toList.contains (Char.ofNat 0)

/-- Goes on from a path. An absolute path replaces it, and an empty one leaves a slash at its
end. -/
def join (p : Pathname) (next : String) : Pathname :=
  if Pathname.isAbsolute ⟨next⟩ then ⟨next⟩
  else if p.text.isEmpty || p.endsWithSlash then ⟨p.text ++ next⟩
  else ⟨p.text ++ "/" ++ next⟩

/-! ### Parents and names -/

/-- Where a path begins. -/
inductive Start where
  /-- At the root. -/
  | root
  /-- At the current folder, by a dot. -/
  | dot
  /-- At the current folder, with its first name. -/
  | plain
  deriving DecidableEq

/-- The start of a path and the parts behind it. -/
def split (p : Pathname) : Start × List String :=
  match p.parts with
  | first :: rest =>
    if first = "." then (.dot, rest)
    else if first.isEmpty && !rest.isEmpty then (.root, rest)
    else (.plain, first :: rest)
  | [] => (.plain, [])

/-- The path with a start and parts behind it. -/
def unsplit (start : Start) (parts : List String) : Pathname :=
  match start with
  | .root => ⟨"/" ++ "/".intercalate parts⟩
  | .dot => if parts.isEmpty then ⟨"."⟩ else ⟨"./" ++ "/".intercalate parts⟩
  | .plain => ⟨"/".intercalate parts⟩

/-- Whether a part can be passed over. -/
def isIdle (part : String) : Bool := part.isEmpty || part = "."

/-- The parts without the idle ones at the end, last part first. -/
def backwards (parts : List String) : List String := parts.reverse.dropWhile isIdle

/-- The path without its last name. -/
def parent? (p : Pathname) : Option Pathname :=
  match backwards p.split.2 with
  | _ :: before => some (unsplit p.split.1 (before.dropWhile isIdle).reverse)
  | [] => if p.split.1 = .dot then some ⟨""⟩ else none

/-- The folder in which the last name of a path stands. -/
def folder (p : Pathname) : Pathname :=
  match p.parent? with
  | some q => if q.text.isEmpty then ⟨"."⟩ else q
  | none => ⟨"."⟩

/-- The last name of a path, unless it is a pair of dots. -/
def name? (p : Pathname) : Option String :=
  match backwards p.split.2 with
  | name :: _ => if name = ".." then none else some name
  | [] => none

/-- A name up to its last dot, and what stands behind the dot. A dot at the front does not
count. -/
def splitName (name : String) : String × Option String :=
  let behind := name.toList.reverse.takeWhile (· ≠ '.')
  let before := name.toList.reverse.drop (behind.length + 1)
  if before.isEmpty then (name, none)
  else (String.ofList before.reverse, some (String.ofList behind.reverse))

/-- What stands behind the last dot of the last name. -/
def extension? (p : Pathname) : Option String := p.name?.bind fun name => (splitName name).2

/-- The path with another extension. -/
def withExtension (p : Pathname) (extension : String) : Pathname :=
  match backwards p.split.2 with
  | name :: before =>
    if name = ".." then p
    else
      let stem := unsplit p.split.1 (before.reverse ++ [(splitName name).1])
      if extension.isEmpty then stem else ⟨stem.text ++ "." ++ extension⟩
  | [] => p

end Pathname

end WidgetForge.Disk
