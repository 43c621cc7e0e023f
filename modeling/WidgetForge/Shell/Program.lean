import WidgetForge.Shell.Execution

/-!
# The shell as a program

The shell runs a text that it is given, a file, or what it reads.
-/

namespace WidgetForge.Shell

open Machine Text Run

/-- What a shell is told to run. -/
structure Orders where
  /-- The letters of the options. -/
  options : List Char
  /-- Whether the first word is the script itself. -/
  text : Bool
  /-- The words that are no options. -/
  words : List String

/-- Reads the words of a shell; the letter of an option that does not exist is an error. -/
def ordersOf (o : Orders) : List String → Except String Orders
  | [] => .ok o
  | word :: rest =>
    match word.toList with
    | ['-'] => .ok { o with words := rest }
    | ['-', '-'] => .ok { o with words := rest }
    | [sign, 'o'] =>
      if sign = '-' || sign = '+' then
        match rest with
        | [] => .ok o
        | name :: more =>
          match Builtin.optionNames.lookup name with
          | none => .error ("Illegal option " ++ word ++ " " ++ name)
          | some c =>
            ordersOf
              { o with options :=
                  if sign = '-' then o.options ++ [c] else o.options.filter (· ≠ c) }
              more
      else .ok { o with words := word :: rest }
    | sign :: letters =>
      if sign = '-' || sign = '+' then
        let known (c : Char) : Bool := c = 'c' || Builtin.optionNames.any fun n => n.2 = c
        match letters.find? fun c => !known c with
        | some c => .error ("Illegal option " ++ String.ofList [sign, c])
        | none =>
          let marks := letters.filter (· ≠ 'c')
          ordersOf
            { o with
              text := o.text || letters.contains 'c'
              options :=
                if sign = '-' then o.options ++ marks
                else o.options.filter fun c => !marks.contains c }
            rest
      else .ok { o with words := word :: rest }
    | [] => .ok { o with words := word :: rest }

/-- The variables of a shell that begins. -/
def bindingsOf (environment : List (String × String)) (here : String) : List (String × Binding) :=
  let inherited := environment.filterMap fun (name, value) =>
    if isName name && name ≠ "IFS" && name ≠ "PWD" then some (name, ⟨some value, true, false⟩)
    else none
  let own (name value : String) : List (String × Binding) :=
    if inherited.any fun b => b.1 = name then [] else [(name, ⟨some value, false, false⟩)]
  inherited ++ [("IFS", ⟨some " \t\n", false, false⟩), ("PWD", ⟨some here, true, false⟩)] ++
    own "OPTIND" "1" ++
    own "PATH" "/usr/local/sbin:/usr/local/bin:/usr/sbin:/usr/bin:/sbin:/bin" ++ own "PPID" "1" ++
    own "PS1" "# " ++ own "PS2" "> " ++ own "PS4" "+ "

/-- The state of a shell that begins. -/
def stateOf (p : Invocation) (o : Orders) (name : String) (parameters : List String)
    (here : String) : State where
  name := name
  parameters := parameters
  bindings := bindingsOf p.environment here
  functions := []
  options := o.options
  status := 0
  inner := none
  job := none
  jobs := []
  descriptors := p.descriptors
  traps := []
  line := 0
  command := none
  loops := 0
  frames := []
  letters := 0
  found := []

/-- Runs a script in a shell that begins. -/
def runScript (library : Library) (p : Invocation) (o : Orders) (name : String)
    (parameters : List String) (text : String) : Act Nat := do
  let m ← get
  let i := Interpreter.standard library
  let s := stateOf p o name parameters (Octetwise.spread m.tree.herePath.text)
  let (result, _) ← (inShell i (runText i false text)).run s
  match result with
  | .ok status => return status
  | .error _ => return 2

/-- The shell, which runs the programs of a library. -/
def program (library : Library) : Program := fun p => do
  let refuse (text : String) : Act Nat := do
    p.complain (p.name ++ ": 0: " ++ text ++ "\n")
    return 2
  match ordersOf ⟨[], false, []⟩ p.arguments with
  | .error e => refuse e
  | .ok o =>
    match o.text, o.words with
    | true, [] => refuse "-c requires an argument"
    | true, text :: rest => runScript library p o (rest.headD p.name) (rest.drop 1) text
    | false, words =>
      if words.isEmpty || o.options.contains 's' then
        match ← p.input with
        | .error _ => return 0
        | .ok text => runScript library p o p.name words text
      else
        let file := words.headD ""
        match ← p.contents file with
        | .error e => refuse ("cannot open " ++ file ++ ": " ++ openFault e "No such file")
        | .ok text => runScript library p o file (words.drop 1) text

end WidgetForge.Shell
