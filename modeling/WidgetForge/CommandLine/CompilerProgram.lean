import WidgetForge.CommandLine.Finish
import WidgetForge.Document
import WidgetForge.Json.Printer
import WidgetForge.Operator.Terminal
import WidgetForge.Procedure.World
import WidgetForge.Tool.Registry

/-!
# The compiler on the command line

The compiler takes a request from its switches or from a file, and saves the script or only prints
it. It also sums the lengths of strings, and lists the tools of a host.
-/

namespace WidgetForge.CommandLine.CompilerProgram

open Compiler Disk Operator Text Widget

/-- Where a request comes from. -/
inductive Source where
  /-- From a file. -/
  | file (path : Pathname)
  /-- From the switches. -/
  | switches (r : Request)

/-- What is to be compiled, and how. -/
structure Job where
  /-- Where the request comes from. -/
  source : Source
  /-- The folder into which the script is saved, if it is not the standard one. -/
  folder : Option Pathname
  /-- The file name of the script. -/
  fileName : String
  /-- Whether every style variable has to be used. -/
  strict : Bool
  /-- Whether the script is printed and not saved. -/
  printing : Bool
  /-- Whether the operator may be asked. -/
  asking : Bool

/-- What the program is to do. -/
inductive Command where
  /-- Compile a widget. -/
  | compile (job : Job)
  /-- Sum the lengths of strings. -/
  | totalLength (strings : List String)
  /-- List the tools. -/
  | tools

/-! ### Reading the command line -/

/-- The switch that asks to say more. -/
def verbose : Switch := ⟨"verbose", some 'v', .flag⟩

/-- The switch that asks for help. -/
def help : Switch := ⟨"help", some 'h', .help⟩

/-- The grammar of the program. -/
def grammar : Grammar where
  switches := [verbose, help, ⟨"version", some 'V', .version⟩]
  commands := ["compile", "total-length", "tools", "help"]
  operands := false

/-- A switch that takes any text. -/
def anyText (name : String) : Switch := ⟨name, none, .value (fun _ => true) false⟩

/-- A switch that takes a path. -/
def aPath (name : String) (letter : Option Char) : Switch :=
  ⟨name, letter, .value (fun word => !word.isEmpty) false⟩

/-- The grammar of the command that compiles. -/
def compileGrammar : Grammar where
  switches :=
    [verbose, help, aPath "request" none, anyText "command",
      ⟨"refresh", none, .value (fun word => (integerIn word).isSome) true⟩, anyText "positioning",
      anyText "markup", anyText "styles", aPath "output-dir" (some 'o'), anyText "file-name",
      ⟨"strict-styles", none, .flag⟩, ⟨"print", none, .flag⟩, ⟨"no-prompt", none, .flag⟩]
  commands := []
  operands := false

/-- The grammar of the command that sums lengths. -/
def totalLengthGrammar : Grammar where
  switches := [verbose, help]
  commands := []
  operands := true

/-- The grammar of the command that lists the tools. -/
def toolsGrammar : Grammar where
  switches := [verbose, help]
  commands := []
  operands := false

/-- The switches that make up a request. -/
def requestSwitches : List String := ["command", "refresh", "positioning", "markup", "styles"]

/-- The request that the switches make up. -/
def requestOf (g : Given) : Request where
  command := (g.value? "command").getD ""
  interval := ((g.value? "refresh").bind integerIn).getD 1000
  positioning := (g.value? "positioning").getD ""
  markup := (g.value? "markup").getD ""
  styles := (g.value? "styles").getD "\x7b\x7d"

/-- The job that the switches describe. A file cannot be named beside a part of a request. -/
def jobOf (g : Given) : Except Stop Job :=
  let job (source : Source) : Job :=
    ⟨source, (g.value? "output-dir").map Pathname.mk, (g.value? "file-name").getD defaultFileName,
      g.has "strict-styles", g.has "print", !g.has "no-prompt"⟩
  match g.value? "request" with
  | none => .ok (job (.switches (requestOf g)))
  | some path =>
    if requestSwitches.any g.has then .error .usage else .ok (job (.file ⟨path⟩))

/-- Help is to be had on the whole and on each command. -/
def helpOn : List String → Stop
  | [] => .help
  | [command] => if grammar.commands.contains command then .help else .usage
  | _ => .usage

/-- What the command line asks for, and whether it asks to say more. -/
def parse (words : List String) : Except Stop (Bool × Command) :=
  match grammar.read words with
  | .error e => .error e
  | .ok g =>
    match g.command with
    | some ("compile", rest) =>
      match compileGrammar.read rest with
      | .error e => .error e
      | .ok c => (jobOf c).map fun job => (g.has "verbose" || c.has "verbose", .compile job)
    | some ("total-length", rest) =>
      (totalLengthGrammar.read rest).map fun c =>
        (g.has "verbose" || c.has "verbose", .totalLength c.operands.reverse)
    | some ("tools", rest) =>
      (toolsGrammar.read rest).map fun c => (g.has "verbose" || c.has "verbose", .tools)
    | some (_, rest) => .error (helpOn rest)
    | none => .error .usage

/-! ### Doing it -/

/-- The request of a job. -/
def request : Source → Procedure (Except Document.Error Request)
  | .switches r => .done (.ok r)
  | .file path => Document.load "request" path Request.parse

/-- The options of a job. -/
def options (env : Environment) (saying : Bool) (job : Job) : Options where
  folder := job.folder.or env.widgetsFolder
  fileName := job.fileName
  strict := job.strict
  verbose := saying

/-- The end of a job whose request could not be taken. -/
def refused (e : Document.Error) : Finish :=
  ⟨1, "", "widgetc: " ++ ": ".intercalate e.chain ++ "\n"⟩

/-- The end of a job that only prints. -/
def printed : Except Violation Artifact → Finish
  | .ok artifact => ⟨0, artifact.text ++ "\n", ""⟩
  | .error v => ⟨1, (CompileError.violation v).status ++ "\n", ""⟩

/-- The end of a job that saves. -/
def reported (saying : Bool) (report : Report) : Finish :=
  match report.error with
  | none => ⟨0, report.status ++ "\n", ""⟩
  | some e => ⟨1, report.status ++ "\n", if saying then "error kind: " ++ e.kind ++ "\n" else ""⟩

/-- Does a job. -/
def compile (env : Environment) (saying : Bool) (job : Job) : Procedure Finish :=
  (request job.source).bind fun r =>
    match r with
    | .error e => .done (refused e)
    | .ok r =>
      if job.printing then .done (printed (generate (options env saying job) r))
      else (run (options env saying job) r).map (reported saying)

/-- The list of the tools. -/
def toolList (env : Environment) : String :=
  (Json.Value.array ((Tool.Registry.standard env.options).specs.map Tool.Spec.toValue)).laidOut

/-- Does what the command line asks for. -/
def work (env : Environment) (saying : Bool) : Command → Procedure Finish
  | .compile job => compile env saying job
  | .totalLength strings => .done ⟨0, Tool.TotalLength.report strings ++ "\n", ""⟩
  | .tools => .done ⟨0, toolList env ++ "\n", ""⟩

/-- Whether the operator may be asked. -/
def Command.asks : Command → Bool
  | .compile job => job.asking
  | _ => false

/-- The whole program: the words of its command line, what is typed on the terminal, and the file
tree before and after. -/
def execute (env : Environment) (words : List String) (typed : Octets) (tree : Tree) :
    Finish × Tree :=
  match parse words with
  | .error e => (e.finish "widgetc" version, tree)
  | .ok (saying, command) =>
    let picker := if command.asks then Terminal.picker else Picker.declining
    let (finish, w) := (work env saying command).run ⟨⟨tree, typed, []⟩, picker, []⟩
    (finish.after w.errors, w.tree)

end WidgetForge.CommandLine.CompilerProgram
