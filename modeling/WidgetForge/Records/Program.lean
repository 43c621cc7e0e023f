import WidgetForge.Records.Reader
import WidgetForge.Records.Run
import WidgetForge.Utility.Options

/-!
# The program that runs scripts on records

The program takes a script from its arguments or from files, gives the variables their first values,
and runs the script on the files that are named behind it.
-/

namespace WidgetForge.Records

open Machine Utility

/-- The options of the program. -/
def programOptions : Options :=
  ⟨"", "Fvf", [("field-separator", 'F'), ("assign", 'v'), ("file", 'f')], false⟩

/-- The variables before a script is run. -/
def firstVariables : List (String × Cell) :=
  let text (s : String) : Cell := .value (.text s)
  let number (x : Float) : Cell := .value (.number x)
  [("FS", text " "), ("OFS", text " "), ("RS", text "\n"), ("ORS", text "\n"),
    ("SUBSEP", text "\x1c"), ("CONVFMT", text "%.6g"), ("OFMT", text "%.6g"),
    ("FILENAME", text ""), ("NR", number 0), ("FNR", number 0), ("RSTART", number 0),
    ("RLENGTH", number (-1)), ("ARGV", .array 0), ("ENVIRON", .array 1)]

/-- The state before a script is run: the arguments and the environment are arrays. -/
def firstState (p : Invocation) (operands : List String) : State :=
  let words := p.name :: operands
  { globals := firstVariables ++ [("ARGC", .value (.number (Float.ofNat words.length)))]
    locals := []
    arrays :=
      #[words.mapIdx fun i w => (toString i, Value.ofInput w.toList),
        p.environment.map fun entry => (entry.1, Value.ofInput entry.2.toList)]
    record := []
    fields := []
    current := none
    next := 1
    named := false
    readings := []
    written := []
    piped := []
    ranges := []
    status := 0
    seed := 1
    seedBefore := 0 }

/-- Gives variables the values that the options name, runs a script, and ends what it has begun. -/
def perform (e : Evaluator) (s : Script) (assignments : List (String × String)) : Run Unit := do
  for (name, value) in assignments do
    Evaluator.assignOutside name value
  e.script s
  e.closeAll

/-- Runs a script; gives the status of the program. -/
def runScript (library : Library) (p : Invocation) (s : Script)
    (assignments : List (String × String)) (operands : List String) : Act Nat := do
  let e := Evaluator.upTo s.functions library p Evaluator.depth
  match ← (perform e s assignments).run (firstState p operands) with
  | (.ok (), state) => return state.status
  | (.error (.refusal complaint), _) => p.fail 2 complaint
  | (.error (.fault complaint), _) =>
    p.fail 2 ("run time error: " ++ complaint ++ "\n\tFILENAME=\"\" FNR=0 NR=0")
  | (.error .exit, state) => return state.status
  | (.error _, _) => p.fail 2 "line 1: improper use of a statement"

/-- The text of the script that is in files, or why there is none. -/
def scriptIn (p : Invocation) (files : List String) : Act (Except String String) := do
  let mut texts : List String := []
  for file in files do
    match ← p.contents file with
    | .ok content => texts := texts ++ [content]
    | .error e => return .error ("cannot open \"" ++ file ++ "\" (" ++ e.wording ++ ")")
  return .ok ("\n".intercalate texts)

/-- Runs scripts on records. -/
def program (library : Library) : Program := fun p => do
  match programOptions.read p.arguments with
  | .error complaint => p.fail 2 complaint
  | .ok g =>
    let files := g.values 'f'
    let inFiles := !files.isEmpty
    let operands := if inFiles then g.operands else g.operands.drop 1
    let text ←
      match inFiles, g.operands with
      | true, _ => scriptIn p files
      | false, word :: _ => pure (.ok word)
      | false, [] => pure (.error "no program")
    let separator := (g.value? 'F').map fun w => ("FS", w)
    let given := (g.values 'v').map fun w => (w, Evaluator.assignment? w)
    match text, given.find? fun w => w.2.isNone with
    | .error complaint, _ => p.fail 2 complaint
    | _, some (word, _) => p.fail 2 ("improper assignment: -v " ++ word)
    | .ok text, none =>
      match read text.toList with
      | .error complaint => p.fail 2 complaint
      | .ok script =>
        runScript library p script (separator.toList ++ given.filterMap Prod.snd) operands

end WidgetForge.Records
