import WidgetForge.Machine.Basic

/-!
# Invocations

A program is invoked with arguments and an environment, and it reads and writes through descriptors,
each of which stands for a channel. By custom the first three are its input, its output and its
error output. It ends with a status, which is zero if it succeeded.

The words that a program deals with are texts of octets.
-/

namespace WidgetForge

open Disk Text Machine

/-- What a program is given. -/
structure Invocation where
  /-- The name by which it was called. -/
  name : String
  /-- Its arguments. -/
  arguments : List String
  /-- Names with their values. -/
  environment : List (String × String)
  /-- The channels that it may use, by descriptors. -/
  descriptors : List (Nat × Nat)

/-- A program: what it does when it is invoked, and with which status it ends. -/
abbrev Program := Invocation → Act Nat

/-- The programs that can be run, by their names. -/
abbrev Library := String → Option Program

namespace Invocation

/-- Writes to a descriptor. -/
def write (p : Invocation) (descriptor : Nat) (text : String) : Act (Except OsError Unit) :=
  match p.descriptors.lookup descriptor with
  | none => return .error .badDescriptor
  | some number => Machine.put number (Octetwise.write text)

/-- Writes to the output. -/
def print (p : Invocation) (text : String) : Act Unit := do
  let _ ← p.write 1 text

/-- Writes to the error output. -/
def complain (p : Invocation) (text : String) : Act Unit := do
  let _ ← p.write 2 text

/-- Complains in a line that begins with the name of the program. -/
def report (p : Invocation) (text : String) : Act Unit :=
  p.complain (p.name ++ ": " ++ text ++ "\n")

/-- Complains and ends with a status. -/
def fail (p : Invocation) (status : Nat) (text : String) : Act Nat := do
  p.report text
  return status

/-- Reads the rest of the input. -/
def input (p : Invocation) : Act (Except OsError String) := do
  match p.descriptors.lookup 0 with
  | none => return .error .badDescriptor
  | some number => return (← Machine.takeAll number).map Octetwise.read

/-- Reads the whole of a file; a dash stands for the input. -/
def contents (p : Invocation) (file : String) : Act (Except OsError String) := do
  if file = "-" then p.input
  else
    match ← Machine.openAt (pathOf file) .read p.descriptors with
    | .error e => return .error e
    | .ok number => return (← Machine.takeAll number).map Octetwise.read

/-- Puts content into a file. -/
def store (p : Invocation) (file : String) (access : Access) (content : String) :
    Act (Except OsError Unit) := do
  match ← Machine.openAt (pathOf file) access p.descriptors with
  | .error e => return .error e
  | .ok number => Machine.put number (Octetwise.write content)

/-- The value of a name in the environment. -/
def value? (p : Invocation) (name : String) : Option String := p.environment.lookup name

end Invocation

end WidgetForge
