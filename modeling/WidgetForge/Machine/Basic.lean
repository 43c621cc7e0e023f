import WidgetForge.Disk.Entries
import WidgetForge.Surroundings
import WidgetForge.Text.Octetwise

/-!
# Machines

A machine runs programs on a file tree. Programs read and write through channels: a channel is a
file from an offset on, or a memory in which what one program writes waits until another reads it.
Programs that are joined by a pipe run one after the other, so a pipe is such a memory.

The programs are those by which an operator can be asked (`Operator.standardPrograms`).
-/

namespace WidgetForge

open Disk Text

/-- What can be read and written. -/
inductive Channel where
  /-- It is empty, and what is written to it is lost. -/
  | nothing
  /-- What is written goes to the end, and what is read is taken from the front. -/
  | memory (content : Octets)
  /-- A file from an offset on; `appending` sends all that is written to its end. -/
  | file (place : Location) (offset : Nat) (appending : Bool)
  /-- A folder, of which nothing can be read. -/
  | folder

/-- A machine. -/
structure Machine where
  /-- The files and folders. -/
  tree : Tree
  /-- The channels that have been opened, by their numbers. -/
  channels : Array Channel
  /-- The files that may be run. -/
  runnable : List Location

namespace Machine

/-- What programs do on a machine. -/
abbrev Act := StateM Machine

/-- Opens a channel. -/
def opened (c : Channel) : Act Nat := fun m =>
  (m.channels.size, { m with channels := m.channels.push c })

/-- Puts a channel in the place of another. -/
def replace (number : Nat) (c : Channel) : Act Unit :=
  modify fun m => { m with channels := m.channels.setIfInBounds number c }

/-- Changes the tree, or leaves it if that fails. -/
def change (f : Tree → Except OsError Tree) : Act (Except OsError Unit) := fun m =>
  match f m.tree with
  | .error e => (.error e, m)
  | .ok tree => (.ok (), { m with tree := tree })

/-- Looks something up in the tree. -/
def look {α : Type} (f : Tree → α) : Act α := fun m => (f m.tree, m)

/-- Reads from a channel what `cut` takes off the octets that wait in it. -/
def takeWith (cut : Octets → Octets) (number : Nat) : Act (Except OsError Octets) := do
  let m ← get
  match m.channels[number]? with
  | none => return .error .badDescriptor
  | some .nothing => return .ok []
  | some .folder => return .error .isFolder
  | some (.memory content) =>
    let taken := cut content
    replace number (.memory (content.drop taken.length))
    return .ok taken
  | some (.file place offset appending) =>
    let taken := cut (((m.tree.file? place).getD []).drop offset)
    replace number (.file place (offset + taken.length) appending)
    return .ok taken

/-- Reads all that is left in a channel. -/
def takeAll : Nat → Act (Except OsError Octets) := takeWith id

/-- The first line of some octets, with its line feed. -/
def firstLine : Octets → Octets
  | [] => []
  | b :: rest => if b = 10 then [b] else b :: firstLine rest

/-- Reads a line from a channel. -/
def takeLine : Nat → Act (Except OsError Octets) := takeWith firstLine

/-- The octets `old` with `new` written over them from an offset on. -/
def overwrite (old : Octets) (offset : Nat) (new : Octets) : Octets :=
  let before := old.take offset
  before ++ List.replicate (offset - before.length) 0 ++ new ++ old.drop (offset + new.length)

/-- Writes to a channel. -/
def put (number : Nat) (octets : Octets) : Act (Except OsError Unit) := do
  let m ← get
  match m.channels[number]? with
  | none => return .error .badDescriptor
  | some .nothing => return .ok ()
  | some .folder => return .error .badDescriptor
  | some (.memory content) =>
    replace number (.memory (content ++ octets))
    return .ok ()
  | some (.file place offset appending) =>
    match m.tree.file? place with
    | none => return .ok ()
    | some old =>
      let start := if appending then old.length else offset
      replace number (.file place (start + octets.length) appending)
      modify fun m => { m with tree := m.tree.put place (.file (overwrite old start octets)) }
      return .ok ()

/-! ### Opening files -/

/-- How a file is opened. -/
inductive Access where
  /-- To be read. -/
  | read
  /-- To be written from its start; what it holds is lost. -/
  | write
  /-- To be written at its end. -/
  | append
  /-- To be read and written. -/
  | update
  deriving DecidableEq

/-- The path in a text of octets. -/
def pathOf (text : String) : Pathname := ⟨Octetwise.gather text⟩

/-- Which error of the operating system an error is. -/
def osErrorOf : IoError → OsError
  | .os e => e
  | _ => .invalid

/-- Makes sure that a file is there to be written, and says where. A device has no place. -/
def create (p : Pathname) (truncated : Bool) : Act (Except OsError (Option Location)) := fun m =>
  let kept : Octets :=
    if truncated then []
    else
      match m.tree.lookUp p with
      | .ok (.file content) => content
      | _ => []
  match m.tree.writeFile p kept with
  | .error e => (.error (osErrorOf e), m)
  | .ok tree =>
    match tree.locate p with
    | .error e => (.error e, m)
    | .ok place =>
      (.ok (if (tree.file? place).isSome then some place else none), { m with tree := tree })

/-- Opens the file or the device at a path. `descriptors` says which channels the program has for
its input and its outputs, for those are devices too. -/
def openAt (p : Pathname) (access : Access) (descriptors : List (Nat × Nat)) :
    Act (Except OsError Nat) := do
  let m ← get
  let own (descriptor : Nat) : Except OsError Nat :=
    (descriptors.lookup descriptor).elim (.error .noEntry) .ok
  match m.tree.lookUp p with
  | .ok (.device .nothing) => return .ok (← opened .nothing)
  | .ok (.device .input) => return own 0
  | .ok (.device .output) => return own 1
  | .ok (.device .errors) => return own 2
  | .ok (.device .terminal) => return .error .noDevice
  | .ok (.folder _) =>
      if access = .read then return .ok (← opened .folder) else return .error .isFolder
  | found =>
    match access, found with
    | .read, .error e => return .error (osErrorOf e)
    | access, _ =>
      match ← if access = .read then fun m => (.ok (m.tree.locate p).toOption, m)
          else create p (access = .write) with
      | .error e => return .error e
      | .ok none => return .ok (← opened .nothing)
      | .ok (some place) => return .ok (← opened (.file place 0 (access = .append)))

end Machine

end WidgetForge
