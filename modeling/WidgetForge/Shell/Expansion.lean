import WidgetForge.Shell.Arithmetic
import WidgetForge.Shell.Field
import WidgetForge.Shell.Glob
import WidgetForge.Shell.Reader
import WidgetForge.Shell.State

/-!
# What words stand for

Parameters give way to their values, commands to what they print, and expressions to their numbers;
the result is cut into fields, and fields give way to the names of files. To run commands and to
expand the words inside a word is left to an interpreter, which is given.
-/

namespace WidgetForge.Shell

open Machine Text Run

/-- What runs commands and expands words. -/
structure Interpreter where
  /-- Runs a command; `tested` says that somebody asks how it ends. -/
  execute : Bool → Command → Run Nat
  /-- The pieces of a word. -/
  expand : Word → Run (List Piece)
  /-- The programs that can be run. -/
  library : Library

/-- The number by which a shell is known. -/
def shellNumber : String := "4096"

/-- The characters that separate fields. -/
def separators : Run (List Char) := return ((← value? "IFS").getD " \t\n").toList

/-- The values of a parameter. Only `@` and `*` may have more or less than one; any other has none
if it is not set. -/
def valuesOf (name : String) : Run (Option (List String)) := do
  let s ← get
  match name with
  | "@" | "*" => return some s.parameters
  | "#" => return some [toString s.parameters.length]
  | "?" => return some [toString s.status]
  | "$" => return some [shellNumber]
  | "!" => return s.job.map fun n => [toString n]
  | "-" => return some [String.ofList s.options]
  | "0" => return some [s.name]
  | _ =>
    match name.toNat? with
    | some n => return (s.parameters[n - 1]?).map fun v => [v]
    | none => return (← value? name).map fun v => [v]

/-- Whether a parameter stands for all parameters. -/
def isAll (name : String) : Bool := name = "@" || name = "*"

/-- What stands between parameters in one text. -/
def separator : Run String := return String.ofList ((← separators).take 1)

/-- The pieces of the values of a parameter. -/
def piecesOf (name : String) (quoted : Bool) (values : List String) : Run (List Piece) := do
  if name = "*" && quoted then return Piece.ofValue true ((← separator).intercalate values)
  else return Piece.ofValues quoted values

/-- The pieces of nothing. -/
def nothing (quoted : Bool) : List Piece := if quoted then [.empty] else []

/-- Complains of a parameter that is not set. -/
def missing {α : Type} (name : String) (orEmpty : Bool) (message : String) : Run α :=
  fault (name ++ ": " ++
    (if !message.isEmpty then message
      else if orEmpty then "parameter not set or null"
      else "parameter not set"))

/-- The values of a parameter that has to be set if the shell insists on that. -/
def insist (name : String) (values : Option (List String)) : Run (List String) := do
  match values with
  | some all => return all
  | none => if ← option 'u' then missing name false "" else return []

namespace Interpreter

/-- The text of a word that is not cut. -/
def text (i : Interpreter) (w : Word) : Run String := do
  let pieces ← i.expand w
  return Piece.text (← separator) pieces

/-- The pieces of a word inside a parameter. -/
def inner (i : Interpreter) (quoted : Bool) (w : Word) : Run (List Piece) := do
  let pieces ← i.expand w
  let pieces := if quoted then pieces else pieces.map Piece.splitting
  return if quoted && pieces.isEmpty then [.empty] else pieces

/-- The pattern in a word. -/
def pattern (i : Interpreter) (w : Word) : Run Pattern :=
  return Pattern.ofMarks (Piece.marks [⟨' ', true⟩] (← i.expand w))

/-- The pieces of a parameter. -/
def parameter (i : Interpreter) (name : String) (change : Change) (quoted : Bool) :
    Run (List Piece) := do
  let values ← valuesOf name
  let present := values.isSome && !(isAll name && values = some [])
  let filled := present && values ≠ some [""]
  let whole : Run (List Piece) := do
    match ← insist name values with
    | [] => return if isAll name && !(quoted && name = "*") then [] else nothing quoted
    | all => piecesOf name quoted all
  let cut (f : List Char → List Char) : Run (List Piece) := do
    match ← insist name values with
    | [] => return nothing quoted
    | all => piecesOf name quoted (all.map fun v => String.ofList (f v.toList))
  match change with
  | .none => whole
  | .length =>
    let all ← insist name values
    return Piece.ofValue quoted (toString ((← separator).intercalate all).length)
  | .default empty w => if if empty then filled else present then whole else i.inner quoted w
  | .instead empty w =>
    if if empty then filled else present then i.inner quoted w else return nothing quoted
  | .require empty w =>
    if if empty then filled else present then whole
    else missing name empty (← i.text w)
  | .assign empty w =>
    if if empty then filled else present then whole
    else if !isName name then fault (name ++ ": bad variable name")
    else
      let value ← i.text w
      assign name value
      piecesOf name quoted [value]
  | .dropStart longest w =>
    let p ← i.pattern w
    cut (p.dropStart longest)
  | .dropEnd longest w =>
    let p ← i.pattern w
    cut (p.dropEnd longest)
  | .bad => fault "Bad substitution"

/-- Runs something in a shell of its own: what it changes in the shell is undone, and it ends with a
status in every case. -/
def apart (action : Run Nat) : Run Nat := fun s => do
  let here := (← get).tree.here
  let (result, left) ← action.run { s with traps := [], jobs := [] }
  modify fun m => { m with tree := { m.tree with here := here } }
  let status :=
    match result with
    | .ok status => status
    | .error (.exit status) => status
    | .error (.fault status) => status
    | .error (.back status) => status
    | .error _ => left.status
  return (.ok status, s)

/-- What a command prints, without the line ends behind it. -/
def output (i : Interpreter) (body : Command) : Run String := do
  let number ← act (opened (.memory []))
  let status ← apart do
    modify fun s => { s with descriptors := (1, number) :: s.descriptors.filter (·.1 ≠ 1) }
    i.execute false body
  modify fun s => { s with inner := some status }
  match ← act (takeAll number) with
  | .error _ => return ""
  | .ok octets =>
    let cs := (Octetwise.read octets).toList.filter fun c => c ≠ Char.ofNat 0
    return String.ofList (cs.reverse.dropWhile (· = '\n')).reverse

/-- The number of an arithmetic expression. -/
def number (i : Interpreter) (expression : Word) : Run String := do
  let text ← i.text expression
  let s ← get
  let look (name : String) : Option String := (s.bindings.lookup name).bind Binding.value
  match Arithmetic.evaluate look text with
  | .error f => fault (f.message text)
  | .ok (value, assigned) =>
    for (name, n) in assigned do
      assign name (toString n.toInt)
    return toString value.toInt

/-- The pieces of a piece of a word. -/
def part (i : Interpreter) : Part → Run (List Piece)
  | .text s quoted =>
    return if quoted && s.isEmpty then [.empty] else s.toList.map fun c => .char c quoted false
  | .parameter name change quoted => i.parameter name change quoted
  | .output body quoted => return Piece.ofValue quoted (← i.output body)
  | .arithmetic expression quoted => return Piece.ofValue quoted (← i.number expression)

/-- The pieces of a word. -/
def pieces (i : Interpreter) (w : Word) : Run (List Piece) := do
  let all ← w.mapM i.part
  return all.flatten

/-! ### Homes -/

/-- The home of a user. -/
def homeOf (user : String) : Run (Option String) := do
  if user.isEmpty then value? "HOME"
  else return if user = "root" then some "/root" else none

/-- A word whose leading tilde has given way to a home. `more` characters may end the name of a
user besides a slash. -/
def atHome (more : List Char) (w : Word) : Run Word := do
  match w with
  | .text s false :: rest =>
    match s.toList with
    | '~' :: cs =>
      let user := cs.takeWhile fun c => c ≠ '/' && !more.contains c
      if user.length = cs.length && !rest.isEmpty then return w
      match ← homeOf (String.ofList user) with
      | none => return w
      | some home =>
        return .text home true :: .text (String.ofList (cs.drop user.length)) false :: rest
    | _ => return w
  | _ => return w

/-- A word in which each tilde at its start or behind a colon has given way to a home. -/
def atHomes (w : Word) : Run Word := do
  let all ← (← atHome [':'] w).mapM fun part => do
    match part with
    | .text s false =>
      let texts := Text.split ':' s.toList
      let behind ← (texts.drop 1).mapM fun cs => atHome [] [.text (String.ofList cs) false]
      return .text (String.ofList (texts.headD [])) false ::
        behind.flatMap fun w => .text ":" false :: w
    | part => return [part]
  return all.flatten

/-! ### Words in commands -/

/-- The text of a word that gives a file or a value. -/
def single (i : Interpreter) (w : Word) : Run String := do i.text (← atHome [] w)

/-- The value in an assignment. -/
def value (i : Interpreter) (w : Word) : Run String := do i.text (← atHomes w)

/-- The pattern in a clause. -/
def clausePattern (i : Interpreter) (w : Word) : Run Pattern := do i.pattern (← atHome [] w)

/-- The words that a word stands for. -/
def words (i : Interpreter) (w : Word) : Run (List String) := do
  let pieces ← i.expand (← atHome [] w)
  let fields := fieldsOf (← separators) pieces
  if ← option 'f' then return fields.map Glob.textOf
  else
    let found ← act (look fun t => fields.flatMap (Glob.paths t))
    return found

end Interpreter

end WidgetForge.Shell
