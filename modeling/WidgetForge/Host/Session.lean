import WidgetForge.Host.Basic
import WidgetForge.Procedure.World

/-!
# Sessions

Three things go on in a session at once. Lines are read, and each call that is met is performed on
its own, its steps in turn with those of the other calls. Replies are sent as they come up and wait
in a queue. They are written from the front of the queue, one after the other. When a reply cannot
be written, that reply and all others that wait or are sent later are lost, but lines are still read
and calls still performed.

A schedule says whose turn it is, again and again. What it leaves over is done afterwards: first the
lines are read, then the calls are finished in order, then the replies are written.
-/

namespace WidgetForge.Host

open Disk Text

/-- Whether the reply with a number can be written. -/
abbrev Writer := Nat → Except IoError Unit

/-- A writer that never fails. -/
def Writer.working : Writer := fun _ => .ok ()

/-- The state of a session. -/
structure Session where
  /-- The lines that have not been read. -/
  unread : List Octets
  /-- What the calls that have been accepted and not finished still have to do. -/
  running : List (Procedure Reply)
  /-- How many calls have been accepted. -/
  accepted : Nat
  /-- The replies that wait to be written. -/
  queued : List Reply
  /-- The replies that have been written. -/
  written : List Reply
  /-- Why the first lost reply was lost, if any was. -/
  broken : Option IoError
  /-- The world in which calls are performed. -/
  world : World

namespace Session

/-- The session before anything has been read. -/
def start (unread : List Octets) (world : World) : Session where
  unread := unread
  running := []
  accepted := 0
  queued := []
  written := []
  broken := none
  world := world

/-- Sends a reply. It is lost if writing has failed. -/
def send (r : Reply) (s : Session) : Session :=
  match s.broken with
  | some _ => s
  | none => { s with queued := s.queued ++ [r] }

/-- Acts on a line. -/
def accept (h : Host) (line : Octets) (s : Session) : Session :=
  match h.receive line with
  | .nothing => s
  | .reply r => s.send r
  | .call c =>
    { s with running := s.running ++ [h.perform s.accepted c], accepted := s.accepted + 1 }

/-- Reads a line, if there is one. -/
def read (h : Host) (s : Session) : Session :=
  match s.unread with
  | [] => s
  | line :: rest => { s with unread := rest }.accept h line

/-- Takes a step of a call, the one with this place among those that are running. A call that is
done sends its reply. -/
def step (place : Nat) (s : Session) : Session :=
  match s.running.drop place with
  | [] => s
  | .done r :: later => { s with running := s.running.take place ++ later }.send r
  | .step a next :: later =>
    { s with
      running := s.running.take place ++ next (s.world.perform a).1 :: later
      world := (s.world.perform a).2 }

/-- Writes the first reply that waits, if there is one. -/
def write (writer : Writer) (s : Session) : Session :=
  match s.queued with
  | [] => s
  | r :: rest =>
    match writer s.written.length with
    | .ok () => { s with queued := rest, written := s.written ++ [r] }
    | .error e => { s with queued := [], broken := some e }

/-- Whose turn it is in a session. -/
inductive Turn where
  /-- A line is read. -/
  | read
  /-- A call takes a step, the one with this place among those that are running. -/
  | step (place : Nat)
  /-- A reply is written. -/
  | write
  deriving DecidableEq

/-- Takes a turn. -/
def turn (h : Host) (writer : Writer) (s : Session) : Turn → Session
  | .read => s.read h
  | .step place => s.step place
  | .write => s.write writer

/-- Takes turns, one after the other. -/
def turns (h : Host) (writer : Writer) (schedule : List Turn) (s : Session) : Session :=
  schedule.foldl (turn h writer) s

/-- Reads all lines that are left. -/
def readAll (h : Host) (writer : Writer) (s : Session) : Session :=
  s.turns h writer (List.replicate s.unread.length .read)

/-- Performs all that a call still has to do and sends its reply. -/
def finish (s : Session) (p : Procedure Reply) : Session :=
  { s with world := (p.run s.world).2 }.send (p.run s.world).1

/-- Finishes all calls that are running, in order. -/
def finishAll (s : Session) : Session := s.running.foldl finish { s with running := [] }

/-- Writes all replies that wait. -/
def writeAll (h : Host) (writer : Writer) (s : Session) : Session :=
  s.turns h writer (List.replicate s.queued.length .write)

/-- Follows a schedule, and then does what it left over. -/
def follow (h : Host) (writer : Writer) (schedule : List Turn) (s : Session) : Session :=
  ((s.turns h writer schedule).readAll h writer).finishAll.writeAll h writer

end Session

/-- The outcome of a session: a failure to write comes before a failure to read. -/
def outcome (ending : Ending) (broken : Option IoError) : Except IoError Unit :=
  match broken, ending with
  | some e, _ => .error e
  | none, .failed e => .error e
  | none, .closed => .ok ()

/-- Serves an input in a world, with the turns of a schedule. -/
def serve (h : Host) (writer : Writer) (input : Octets) (ending : Ending)
    (schedule : List Session.Turn) (world : World) : Except IoError Unit × Session :=
  let s := (Session.start (lines input ending) world).follow h writer schedule
  (outcome ending s.broken, s)

end WidgetForge.Host
