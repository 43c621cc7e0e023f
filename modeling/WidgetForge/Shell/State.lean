import WidgetForge.Machine.Invocation
import WidgetForge.Shell.Script

/-!
# The state of a shell

A shell keeps variables, functions and options, knows how its last command ended, and leads
descriptors to channels. A command may end early and jump out of those around it; what the shell
knows by then stays.
-/

namespace WidgetForge.Shell

open Machine Text

/-- A variable. -/
structure Binding where
  /-- Its value, if it is set. -/
  value : Option String
  /-- Whether programs find it in their environment. -/
  exported : Bool
  /-- Whether it keeps its value for ever. -/
  fixed : Bool

/-- A command that nobody waits for. It is run when somebody does, or at the end, with what the
shell knew when it was given. -/
structure Job where
  /-- Its number. -/
  number : Nat
  /-- The command. -/
  command : Command
  /-- The parameters. -/
  parameters : List String
  /-- The variables. -/
  bindings : List (String × Binding)
  /-- The functions. -/
  functions : List (String × Command)
  /-- The channels, by descriptors. -/
  descriptors : List (Nat × Nat)

/-- The state of a shell. -/
structure State where
  /-- The name of the shell or of its script. -/
  name : String
  /-- The parameters. -/
  parameters : List String
  /-- The variables, by their names. -/
  bindings : List (String × Binding)
  /-- The functions, by their names. -/
  functions : List (String × Command)
  /-- The letters of the options that are on. -/
  options : List Char
  /-- How the last command ended. -/
  status : Nat
  /-- How the last command inside the words of this one ended, if there was one. -/
  inner : Option Nat
  /-- The number of the last job. -/
  job : Option Nat
  /-- The jobs that have not been run. -/
  jobs : List Job
  /-- The channels, by descriptors. -/
  descriptors : List (Nat × Nat)
  /-- What is to be run in certain events, by their names. -/
  traps : List (String × String)
  /-- The line that is being run. -/
  line : Nat
  /-- The name of the command that is part of the shell and being run. -/
  command : Option String
  /-- How many loops are being run. -/
  loops : Nat
  /-- For each function that is being run, what its variables were before. -/
  frames : List (List (String × Option Binding))
  /-- How many letters of a word of options have been looked at. -/
  letters : Nat
  /-- The names of the programs that have been found. -/
  found : List String

/-- How a command ends early. -/
inductive Jump where
  /-- The shell ends. -/
  | exit (status : Nat)
  /-- The command has failed in a way that ends the shell, unless it is an ordinary one. -/
  | fault (status : Nat)
  /-- So many loops end. -/
  | leave (loops : Nat)
  /-- So many loops but one end, and that one goes on with its next turn. -/
  | again (loops : Nat)
  /-- The function ends. -/
  | back (status : Nat)

/-- What a shell does. -/
abbrev Run := ExceptT Jump (StateT State Act)

namespace Run

/-- Does something on the machine. -/
def act {α : Type} (a : Act α) : Run α := liftM a

/-- Writes to a descriptor, and says whether that worked. -/
def write (descriptor : Nat) (text : String) : Run Bool := do
  match (← get).descriptors.lookup descriptor with
  | none => return false
  | some number => return (← act (Machine.put number (Octetwise.write text))).toBool

/-- Writes to the output. -/
def print (text : String) : Run Unit := do
  let _ ← write 1 text

/-- Begins a complaint: the shell, the line, and the command if it is part of the shell. -/
def heading : Run String := do
  let s ← get
  return s.name ++ ": " ++ toString s.line ++ ": " ++ s.command.elim "" (· ++ ": ")

/-- Complains. -/
def complain (text : String) : Run Unit := do
  let _ ← write 2 ((← heading) ++ text ++ "\n")

/-- Complains and fails. -/
def fault {α : Type} (text : String) : Run α := do
  complain text
  throw (.fault 2)

/-- Remembers how a command ended. -/
def ended (status : Nat) : Run Nat := do
  modify fun s => { s with status := status }
  return status

/-! ### Variables -/

/-- A binding under its name in the place of the old one. -/
def put (name : String) (b : Binding) : List (String × Binding) → List (String × Binding)
  | [] => [(name, b)]
  | (n, old) :: rest => if n = name then (n, b) :: rest else (n, old) :: put name b rest

/-- The value of a variable. -/
def value? (name : String) : Run (Option String) := do
  return ((← get).bindings.lookup name).bind Binding.value

/-- The variable of a name, as it is or new. -/
def binding (name : String) : Run Binding := do
  return ((← get).bindings.lookup name).getD ⟨none, (← get).options.contains 'a', false⟩

/-- Changes a variable. -/
def bind (name : String) (b : Binding) : Run Unit :=
  modify fun s => { s with bindings := put name b s.bindings }

/-- Takes a variable away. -/
def unbind (name : String) : Run Unit :=
  modify fun s => { s with bindings := s.bindings.filter fun b => b.1 ≠ name }

/-- Gives a value to a variable. -/
def assign (name value : String) : Run Unit := do
  let b ← binding name
  if b.fixed then fault (name ++ ": is read only")
  bind name { b with value := some value }

/-- What programs find in their environment. -/
def environment : Run (List (String × String)) := do
  return (← get).bindings.filterMap fun (name, b) =>
    if b.exported then b.value.map fun v => (name, v) else none

/-- Whether an option is on. -/
def option (letter : Char) : Run Bool := return (← get).options.contains letter

end Run

end WidgetForge.Shell
