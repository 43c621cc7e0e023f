import WidgetForge.CommandLine.CompilerProgram
import WidgetForge.CommandLine.HostProgram
import WidgetForge.Operator.Programs

/-!
# The programs

The first word of the command line says which program is wanted, `widgetc` or `widget-agent`; the
others are its own command line. What the programs do is said elsewhere, as procedures; here their
steps are performed on the disk and on the terminal, one after the other.
-/

namespace WidgetForge.Main

open Disk Operator Text

/-! ### Steps -/

/-- The error with a number, which some calls give with a minus sign. -/
def numbered (code : UInt32) : IoError := .os ⟨Int32.ofInt code.toInt32.toInt.natAbs⟩

/-- The error of a step that the operating system refused. -/
def errorOf : IO.Error → IoError
  | .alreadyExists _ code _ | .otherError code _ | .resourceBusy code _
  | .resourceVanished code _ | .unsupportedOperation code _ | .hardwareFault code _
  | .unsatisfiedConstraints code _ | .illegalOperation code _ | .protocolError code _
  | .timeExpired code _ | .interrupted _ code _ | .noFileOrDirectory _ code _
  | .invalidArgument _ code _ | .permissionDenied _ code _ | .resourceExhausted _ code _
  | .inappropriateType _ code _ | .noSuchThing _ code _ => numbered code
  | .unexpectedEof => .other "unexpected end of file"
  | .userError text => .other text

/-- Does something that may fail. -/
def attempt {α : Type} (action : IO α) : IO (Except IoError α) := do
  try
    return .ok (← action)
  catch e =>
    return .error (errorOf e)

/-- Does something with a path, which must not hold a NUL character. -/
def attemptAt {α : Type} (p : Pathname) (action : String → IO α) : IO (Except IoError α) :=
  if p.hasNul then return .error .nulInPath else attempt (action p.text)

/-- The octets of an array. -/
def octetsOf (bytes : ByteArray) : Octets := bytes.toList

/-- The array of some octets. -/
def bytesOf (octets : Octets) : ByteArray := ⟨octets.toArray⟩

/-- The path of a location. -/
def pathOf (place : Location) : String := "/" ++ "/".intercalate place

/-- The path of the current folder. -/
def herePath : IO Pathname := return ⟨(← IO.currentDir).toString⟩

/-- A letter or a digit, by chance. -/
def someCharacter : IO Char := do
  let n ← IO.rand 0 61
  return Char.ofNat (if n < 10 then 48 + n else if n < 36 then 55 + n else 61 + n)

/-- A name for a temporary file, by chance. -/
def tempName : IO String := do
  let characters ← (List.replicate 6 ()).mapM fun _ => someCharacter
  return ".tmp" ++ String.ofList characters

/-- Makes a temporary file in a folder. -/
def createTempOnce (folder : Pathname) : IO (Except IoError Location) := do
  let file := ((← herePath).join folder.text).join (← tempName)
  match ← attemptAt file fun path => IO.FS.Handle.mk path .writeNew with
  | .ok _ => return .ok file.names
  | .error e => return .error (.located e file.text)

/-- Makes a temporary file in a folder, with at most `fuel` further names if one is taken. -/
def createTemp (folder : Pathname) : Nat → IO (Except IoError Location)
  | 0 => createTempOnce folder
  | fuel + 1 => do
    match ← createTempOnce folder with
    | .error (.located e place) =>
      if e = .os .entryExists then createTemp folder fuel else return .error (.located e place)
    | reply => return reply

/-- Declines every prompt. -/
def decline (_ : Prompt) : IO Answer := return .ok none

/-- Performs a step; prompts are put by `ask`. -/
def perform (ask : Prompt → IO Answer) : (s : Step) → IO s.Reply
  | .makeFolder p => attemptAt p fun path => IO.FS.createDir path
  | .isFolder p => do
    match ← attemptAt p fun path => IO.FS.Handle.mk (path ++ "/.") .read with
    | .ok _ => return true
    | .error _ => return false
  | .createTemp folder => createTemp folder 1000
  | .append temp octets => attempt do
    let handle ← IO.FS.Handle.mk (pathOf temp) .append
    handle.write (bytesOf octets)
    handle.flush
    return octets.length
  | .sync _ => return .ok ()
  | .rename temp target => do
    if target.hasNul then return .error (.os .invalid)
    else attempt (IO.FS.rename (pathOf temp) target.text)
  | .discard temp => do
    let _ ← attempt (IO.FS.removeFile (pathOf temp))
  | .readFile p => attemptAt p fun path => octetsOf <$> IO.FS.readBinFile path
  | .ask prompt => ask prompt

/-- Performs a procedure. -/
def performAll {α : Type} (ask : Prompt → IO Answer) : Procedure α → IO α
  | .done result => return result
  | .step s next => do performAll ask (next (← perform ask s))

/-! ### Lines -/

/-- Reads a line, up to its line feed or the end of the input; `line` is what has been read of it,
last octet first. -/
partial def readLine (input : IO.FS.Stream) (line : Octets) : IO Octets := do
  match octetsOf (← input.read 1) with
  | [] => return line.reverse
  | b :: _ => if b = 10 then return (b :: line).reverse else readLine input (b :: line)

/-- Puts a prompt on the terminal. -/
def askTerminal (prompt : Prompt) : IO Answer := do
  (← IO.getStderr).putStr (Terminal.question prompt)
  match ← attempt (do readLine (← IO.getStdin) []) with
  | .error e => return .error e
  | .ok line =>
    match Terminal.pathIn line with
    | .ok (some path) =>
      return .ok (some (Terminal.place prompt path (← perform decline (.isFolder path))))
    | answer => return answer

/-! ### Programs -/

/-- Ends a program. -/
def finish (f : CommandLine.Finish) : IO UInt32 := do
  (← IO.getStdout).putStr f.output
  (← IO.getStderr).putStr f.errors
  return f.status.toUInt32

/-- The places of the user. -/
def environment : IO Compiler.Environment := do
  let home := (← IO.getEnv "HOME").filter fun path => !path.isEmpty
  return ⟨home.map Pathname.mk, (← IO.getEnv "XDG_DATA_HOME").map Pathname.mk⟩

/-- The compiler. -/
def compilerMain (words : List String) : IO UInt32 := do
  match CommandLine.CompilerProgram.parse words with
  | .error stop => finish (stop.finish "widgetc" CommandLine.version)
  | .ok (saying, command) =>
    let ask := if command.asks then askTerminal else decline
    finish (← performAll ask (CommandLine.CompilerProgram.work (← environment) saying command))

/-- Writes a reply, unless an earlier one could not be written. -/
def writeReply (broken : Option IoError) (r : Host.Reply) : IO (Option IoError) := do
  match broken with
  | some e => return some e
  | none =>
    let output ← IO.getStdout
    match ← attempt (do output.putStr r.line; output.flush) with
    | .ok () => return none
    | .error e => return some e

/-- Serves the input line by line; the next call has this number. -/
partial def serve (h : Host) (ask : Prompt → IO Answer) (number : Nat) (broken : Option IoError) :
    IO (Except IoError Unit) := do
  match ← attempt (do readLine (← IO.getStdin) []) with
  | .error e => return Host.outcome (.failed e) broken
  | .ok [] => return Host.outcome .closed broken
  | .ok line =>
    match h.receive line with
    | .nothing => serve h ask number broken
    | .reply r => serve h ask number (← writeReply broken r)
    | .call c =>
      let reply ← performAll ask (h.perform number c)
      serve h ask (number + 1) (← writeReply broken reply)

/-- The host. -/
def hostMain (words : List String) : IO UInt32 := do
  match CommandLine.HostProgram.parse words with
  | .error stop => finish (stop.finish "widget-agent" CommandLine.version)
  | .ok path =>
    match ← performAll decline (CommandLine.HostProgram.prepare path) with
    | .error e => finish (CommandLine.HostProgram.refused e)
    | .ok (config, instructions) =>
      let picker := Picker.ofWords (standardPrograms (← environment).home) config.picker
      let s := Surroundings.ofTree ⟨[], (← herePath).names⟩
      let host := CommandLine.HostProgram.hostOf (← environment) config instructions
      let outcome ← serve host (fun prompt => return (picker s prompt).1) 0 none
      finish (CommandLine.HostProgram.served outcome [])

end WidgetForge.Main

/-- Runs the program that the first word names. -/
def main : List String → IO UInt32
  | "widgetc" :: words => WidgetForge.Main.compilerMain words
  | "widget-agent" :: words => WidgetForge.Main.hostMain words
  | _ => WidgetForge.Main.finish ⟨2, "", "Usage: widgetc|widget-agent [OPTIONS]\n"⟩
