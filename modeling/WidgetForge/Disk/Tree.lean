import WidgetForge.Disk.Pathname
import WidgetForge.Text.Utf8

/-!
# File trees

A tree holds files, folders, devices and symbolic links, each at a location: the names on the way to
it from the root. The root is always there. Everything about a tree that can be seen is seen through
`Tree.node?`.

What is *not* formalized: permissions and owners, which can only make a step fail, as any step may
that is taken with bad luck; times; files with several names (hard links), which differ from as many
files with the same content only where a file is written in place, as a script never is; and names
that are not Unicode texts.
-/

namespace WidgetForge.Disk

open Text (Octets)

/-- The names on the way from the root. -/
abbrev Location := List String

/-- A device, which has the place of a file in a tree without being one. -/
inductive Device where
  /-- It is empty, and what is written to it is lost. -/
  | nothing
  /-- The input of the program that reads it. -/
  | input
  /-- The output of the program that writes to it. -/
  | output
  /-- The error output of the program that writes to it. -/
  | errors
  /-- The terminal, if there is one. -/
  | terminal
  deriving DecidableEq, Repr

/-- What stands at a location. -/
inductive Node where
  /-- A file. -/
  | file (content : Octets)
  /-- A folder, and whether anything new can be put into it. -/
  | folder (growable : Bool)
  /-- A device. -/
  | device (d : Device)
  /-- A symbolic link to a path. -/
  | link (target : Pathname)
  deriving DecidableEq, Repr

/-- A file tree. -/
structure Tree where
  /-- What stands where, but for the root. -/
  nodes : List (Location × Node)
  /-- The current folder. -/
  here : Location

namespace Tree

/-- The node of a location in a list. -/
def find? (place : Location) : List (Location × Node) → Option Node
  | [] => none
  | (l, n) :: rest => if l = place then some n else find? place rest

/-- The list with a node at a location, in the place of the old one or at the end. -/
def putIn (place : Location) (node : Node) : List (Location × Node) → List (Location × Node)
  | [] => [(place, node)]
  | (l, n) :: rest => if l = place then (l, node) :: rest else (l, n) :: putIn place node rest

/-- What stands at a location. -/
def node? (t : Tree) (place : Location) : Option Node :=
  if place.isEmpty then some (.folder true) else find? place t.nodes

/-- The content of the file at a location. -/
def file? (t : Tree) (place : Location) : Option Octets :=
  match t.node? place with
  | some (.file content) => some content
  | _ => none

/-- The path to which the symbolic link at a location leads, if there is one. -/
def link? (t : Tree) (place : Location) : Option Pathname :=
  match t.node? place with
  | some (.link target) => some target
  | _ => none

/-- Whether a folder stands at a location. -/
def hasFolder (t : Tree) (place : Location) : Bool :=
  match t.node? place with
  | some (.folder _) => true
  | _ => false

/-- Puts a node at a location. -/
def put (t : Tree) (place : Location) (node : Node) : Tree :=
  { t with nodes := putIn place node t.nodes }

/-- Takes away what stands at a location. -/
def erase (t : Tree) (place : Location) : Tree :=
  { t with nodes := t.nodes.filter fun entry => entry.1 ≠ place }

/-- Takes away what stands at a location and below it. -/
def prune (t : Tree) (place : Location) : Tree :=
  { t with nodes := t.nodes.filter fun entry => !place.isPrefixOf entry.1 }

end Tree

end WidgetForge.Disk
