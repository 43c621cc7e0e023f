import WidgetForge.CommandLine.Finish
import WidgetForge.Host.Config
import WidgetForge.Host.Session
import WidgetForge.Operator.Command

/-!
# The host on the command line

The host takes its configuration from a file, if one is named, and then serves its input. A
configuration or instructions that cannot be taken end it before it has read anything.
-/

namespace WidgetForge.CommandLine.HostProgram

open Compiler Disk Operator Text

/-- The grammar of the program. -/
def grammar : Grammar where
  switches :=
    [⟨"config", some 'c', .value (fun word => !word.isEmpty) false⟩,
      ⟨"help", some 'h', .help⟩, ⟨"version", some 'V', .version⟩]
  commands := []
  operands := false

/-- The file of the configuration, if one is named. -/
def parse (words : List String) : Except Stop (Option Pathname) :=
  (grammar.read words).map fun g => (g.value? "config").map Pathname.mk

/-- Takes the configuration and the instructions. -/
def prepare (path : Option Pathname) : Procedure (Except Document.Error (Host.Config × String)) :=
  (Host.Config.load path).bind fun config =>
    match config with
    | .error e => .done (.error e)
    | .ok config =>
      config.instructions.map fun instructions =>
        match instructions with
        | .error e => .error e
        | .ok instructions => .ok (config, instructions)

/-- The host of a configuration. -/
def hostOf (env : Environment) (config : Host.Config) (instructions : String) : Host :=
  ⟨Tool.Registry.standard (config.options env), instructions⟩

/-- The end of a host that could not begin. -/
def refused (e : Document.Error) : Finish := ⟨1, "", errorReport e.chain⟩

/-- The end of a host that has served its input. -/
def served (outcome : Except IoError Unit) (replies : List Host.Reply) : Finish :=
  let output := String.join (replies.map Host.Reply.line)
  match outcome with
  | .ok () => ⟨0, output, ""⟩
  | .error e => ⟨1, output, errorReport [e.message]⟩

/-- The whole program: the words of its command line, its input, and the file tree before and
after. -/
def execute (env : Environment) (programs : Programs) (words : List String) (input : Octets)
    (tree : Tree) : Finish × Tree :=
  match parse words with
  | .error e => (e.finish "widget-agent" version, tree)
  | .ok path =>
    match (prepare path).run ⟨⟨tree, input, []⟩, Picker.declining, []⟩ with
    | (.error e, w) => (refused e, w.tree)
    | (.ok (config, instructions), w) =>
      let world := { w with picker := Picker.ofWords programs config.picker }
      let (outcome, s) :=
        (hostOf env config instructions).serve Host.Writer.working w.input .closed [] world
      ((served outcome s.written).after s.world.errors, s.world.tree)

end WidgetForge.CommandLine.HostProgram
