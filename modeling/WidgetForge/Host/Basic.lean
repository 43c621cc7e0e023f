import WidgetForge.Host.Incoming
import WidgetForge.Host.Reply
import WidgetForge.Text.Blank
import WidgetForge.Tool.Registry

/-!
# What a host makes of its input

The input is cut into lines behind each line feed, which belongs to its line. A blank line means
nothing; any other line is a message or is answered as malformed.
-/

namespace WidgetForge

open Json Text Tool

/-- A host. -/
structure Host where
  /-- The tools that it offers. -/
  registry : Registry
  /-- What the agent is to know about them. -/
  instructions : String

namespace Host

/-- The lines of some octets, each with its line feed, and what stands behind the last line feed. -/
def cut : Octets → List Octets × Octets
  | [] => ([], [])
  | b :: rest =>
    match cut rest with
    | (lines, tail) =>
      if b = 10 then ([b] :: lines, tail)
      else
        match lines with
        | [] => ([], b :: tail)
        | line :: lines => ((b :: line) :: lines, tail)

/-- How the input ends. -/
inductive Ending where
  /-- There is no more of it. -/
  | closed
  /-- Reading on fails. -/
  | failed (e : Disk.IoError)

/-- The lines of an input. What stands behind the last line feed is a line only if the input ends
there. -/
def lines (input : Octets) (ending : Ending) : List Octets :=
  match cut input, ending with
  | (all, []), _ => all
  | (all, _ :: _), .failed _ => all
  | (all, tail), .closed => all ++ [tail]

/-- A call that has been asked for. -/
structure Call where
  /-- What the reply is known by. -/
  id : Value
  /-- The name of the tool. -/
  name : String
  /-- The arguments. -/
  arguments : Value

/-- What a line amounts to. -/
inductive Event where
  /-- Nothing. -/
  | nothing
  /-- A reply. -/
  | reply (r : Reply)
  /-- A call. -/
  | call (c : Call)

/-- What a message amounts to. -/
def eventOf (h : Host) : Incoming → Event
  | .listTools id => .reply (.tools id h.instructions h.registry.specs)
  | .callTool id name arguments => .call ⟨id, name, arguments⟩

/-- What a line amounts to. -/
def receive (h : Host) (line : Octets) : Event :=
  match Utf8.decode line with
  | .error f => .reply (.malformed f.message)
  | .ok text =>
    if allBlank text then .nothing
    else
      match Incoming.parse text with
      | .error e => .reply (.malformed e.message)
      | .ok message => h.eventOf message

/-- What the agent is told when the call with a number crashes. -/
def crashOutput (number : Nat) (message : String) : Output :=
  .failed (.compile (.unexpected
    ("task " ++ toString number ++ " panicked with message " ++ quoted message)))

/-- The reply to the call with a number, once it has ended. -/
def Call.reply (c : Call) (number : Nat) (ended : Except String Output) : Reply :=
  match ended with
  | .ok output => .ofOutput c.id output
  | .error message => .ofOutput c.id (crashOutput number message)

/-- Performs the call with a number. -/
def perform (h : Host) (number : Nat) (c : Call) : Procedure Reply :=
  (h.registry.dispatch c.name c.arguments).map (c.reply number)

end Host

end WidgetForge
