import WidgetForge.Machine.Launch
import WidgetForge.Shell.Expansion
import WidgetForge.Utility.Condition
import WidgetForge.Utility.Format

/-!
# Commands that are part of the shell

The commands that change the shell itself, and a few that print; none of them runs another command.
-/

namespace WidgetForge.Shell

open Machine Text Run Utility

/-- A command that is part of the shell, which is given its arguments. -/
abbrev Builtin := List String → Run Nat

/-- The number in a word. -/
def numberIn (word : String) : Run Nat :=
  if word.isEmpty || !word.toList.all Char.isDigit then fault ("Illegal number: " ++ word)
  else return word.toList.foldl (fun (n : Nat) c => 10 * n + (c.toNat - 48)) 0

/-- A text in single quotes. -/
def singleQuoted (s : String) : String :=
  let quoted (c : Char) : String := if c = '\'' then "'\"'\"'" else String.singleton c
  "'" ++ String.join (s.toList.map quoted) ++ "'"

namespace Builtin

/-- Runs a program as a part of the shell. -/
def ofProgram (program : Program) : Builtin := fun arguments => do
  let heading := String.ofList ((← heading).toList.dropLast.dropLast)
  act (program ⟨heading, arguments, ← environment, (← get).descriptors⟩)

/-- Only ends. -/
def ending (status : Nat) : Builtin := fun _ => return status

/-! ### Printing -/

/-- Prints its arguments in a line, with their escapes. -/
def echo : Builtin := fun arguments => do
  let (words, lineEnd) : List String × String :=
    match arguments with
    | "-n" :: rest => (rest, "")
    | all => (all, "\n")
  let (text, goes) := (Format.Dialect.inArgument .shell).resolve (" ".intercalate words)
  if ← write 1 (text ++ if goes then lineEnd else "") then return 0
  else
    complain "echo: I/O error"
    return 1

/-- Prints its arguments by a format. -/
def printf : Builtin := fun arguments => do
  let arguments :=
    match arguments with
    | "--" :: rest => rest
    | all => all
  match arguments with
  | [] => fault "usage: printf format [arg ...]"
  | format :: rest =>
    match format.toList with
    | '-' :: c :: _ => fault ("Illegal option -" ++ String.singleton c)
    | _ =>
      let p := Format.print .shell format rest
      for complaint in p.complaints.reverse do
        complain complaint
      print (String.ofList p.text.reverse)
      return if p.broken then 2 else if p.failed then 1 else 0

/-- The path of the current folder. -/
def here : Run String := act (look fun t => Octetwise.spread t.herePath.text)

/-- Prints the path of the current folder. -/
def pwd : Builtin := fun _ => do
  print ((← here) ++ "\n")
  return 0

/-- Prints what may not be granted to others. -/
def umask : Builtin := fun arguments => do
  match arguments with
  | [] => print "0022\n"
  | "-S" :: _ => print "u=rwx,g=rx,o=rx\n"
  | _ => return 0
  return 0

/-- Prints how much time has been spent. -/
def times : Builtin := fun _ => do
  print "0m0.000000s 0m0.000000s\n0m0.000000s 0m0.000000s\n"
  return 0

/-- Prints how much may be used. -/
def ulimit : Builtin := fun _ => do
  print "unlimited\n"
  return 0

/-! ### Ends -/

/-- Ends the shell. -/
def exit : Builtin := fun arguments => do
  match arguments with
  | [] => throw (.exit (← get).status)
  | word :: _ => throw (.exit ((← numberIn word) % 256))

/-- Ends a function. -/
def back : Builtin := fun arguments => do
  match arguments with
  | [] => throw (.back (← get).status)
  | word :: _ => throw (.back (← numberIn word))

/-- The number of loops that a word gives, at most those that are being run. -/
def loopsIn (arguments : List String) : Run Nat := do
  let n ←
    match arguments with
    | [] => pure 1
    | word :: _ => numberIn word
  if n = 0 then fault ("Illegal number: " ++ arguments.headD "")
  return min n (← get).loops

/-- Ends loops. -/
def leave : Builtin := fun arguments => do
  match ← loopsIn arguments with
  | 0 => return 0
  | n => throw (.leave n)

/-- Goes on with the next turn of a loop. -/
def again : Builtin := fun arguments => do
  match ← loopsIn arguments with
  | 0 => return 0
  | n => throw (.again n)

/-! ### Variables -/

/-- The name in a word and the value behind an equals sign, if there is one. -/
def nameAndValue (word : String) : String × Option String :=
  let name := word.toList.takeWhile (· ≠ '=')
  (String.ofList name,
    match word.toList.drop name.length with
    | [] => none
    | _ :: value => some (String.ofList value))

/-- Insists that a text is a name. -/
def checkName (name : String) : Run Unit :=
  if isName name then return () else fault (name ++ ": bad variable name")

/-- The variables in the order of their names. -/
def sorted (bindings : List (String × Binding)) : List (String × Binding) :=
  bindings.mergeSort fun a b => a.1 ≤ b.1

/-- Lists variables, each in a line. -/
def listBindings (start : String) (listed : Binding → Bool) : Run Unit := do
  for (name, b) in sorted (← get).bindings do
    if listed b then
      print (start ++ name ++ b.value.elim "" (fun v => "=" ++ singleQuoted v) ++ "\n")

/-- Marks variables, and gives them values. -/
def marking (start : String) (listed : Binding → Bool) (mark : Binding → Binding) : Builtin :=
  fun arguments => do
    if arguments.isEmpty || arguments = ["-p"] then
      listBindings start listed
      return 0
    for word in arguments do
      if word ≠ "--" then
        let (name, value) := nameAndValue word
        checkName name
        match value with
        | some v => assign name v
        | none => pure ()
        bind name (mark (← binding name))
    return 0

/-- Puts variables into the environment of programs. -/
def sharing : Builtin := marking "export " Binding.exported fun b => { b with exported := true }

/-- Makes variables keep their values. -/
def readonly : Builtin := marking "readonly " Binding.fixed fun b => { b with fixed := true }

/-- Makes variables belong to the function that is being run. -/
def localizing : Builtin := fun arguments => do
  match (← get).frames with
  | [] => fault "not in a function"
  | _ =>
    for word in arguments do
      if word ≠ "-" then
        let (name, value) := nameAndValue word
        checkName name
        modify fun s =>
          match s.frames with
          | [] => s
          | frame :: rest =>
            if frame.any fun f => f.1 = name then s
            else { s with frames := ((name, s.bindings.lookup name) :: frame) :: rest }
        match value with
        | some v => assign name v
        | none => pure ()
    return 0

/-- Takes variables or functions away. -/
def unset : Builtin := fun arguments => do
  let functions := arguments.head? = some "-f"
  let names := if functions || arguments.head? = some "-v" then arguments.drop 1 else arguments
  for name in names do
    if functions then
      modify fun s => { s with functions := s.functions.filter fun f => f.1 ≠ name }
    else
      checkName name
      match (← get).bindings.lookup name with
      | some b => if b.fixed then fault (name ++ ": is read only") else unbind name
      | none => pure ()
  return 0

/-- Drops parameters. -/
def shift : Builtin := fun arguments => do
  let n ←
    match arguments with
    | [] => pure 1
    | word :: _ => numberIn word
  let s ← get
  if s.parameters.length < n then fault "can't shift that many"
  set { s with parameters := s.parameters.drop n }
  return 0

/-! ### Options -/

/-- The options, with their letters. -/
def optionNames : List (String × Char) :=
  [("errexit", 'e'), ("noglob", 'f'), ("ignoreeof", 'I'), ("interactive", 'i'), ("monitor", 'm'),
    ("noexec", 'n'), ("stdin", 's'), ("xtrace", 'x'), ("verbose", 'v'), ("vi", 'V'), ("emacs", 'E'),
    ("noclobber", 'C'), ("allexport", 'a'), ("notify", 'b'), ("nounset", 'u'),
    ("privileged", 'p'), ("nolog", 'L'), ("debug", 'd')]

/-- Turns an option on or off. -/
def turn (letter : Char) (on : Bool) : Run Unit := do
  if !(optionNames.any fun o => o.2 = letter) then
    fault ("Illegal option " ++ String.ofList [if on then '-' else '+', letter])
  modify fun s =>
    let others := s.options.filter (· ≠ letter)
    { s with options := if on then others ++ [letter] else others }

/-- Lists the options. -/
def listOptions : Run Unit := do
  print "Current option settings\n"
  for (name, letter) in optionNames do
    let space := String.ofList (List.replicate (16 - name.length) ' ')
    print (name ++ space ++ (if ← option letter then "on" else "off") ++ "\n")

/-- Turns options on and off by words, up to the first that is none: what is left, and whether two
dashes have ended them. -/
def turnAll : List String → Run (List String × Bool)
  | [] => return ([], false)
  | word :: rest => do
    match word.toList with
    | ['-', '-'] => return (rest, true)
    | ['-'] => return (rest, false)
    | [_, 'o'] =>
      match rest with
      | [] =>
        listOptions
        return ([], false)
      | name :: more =>
        match optionNames.lookup name with
        | none => fault ("Illegal option " ++ word ++ " " ++ name)
        | some letter =>
          turn letter (word.toList.head? = some '-')
          turnAll more
    | sign :: letters =>
      if sign = '-' || sign = '+' then
        for letter in letters do
          turn letter (sign = '-')
        turnAll rest
      else return (word :: rest, false)
    | [] => return (word :: rest, false)

/-- Turns options on and off, and sets the parameters. -/
def configure : Builtin := fun arguments => do
  if arguments.isEmpty then
    for (name, b) in sorted (← get).bindings do
      match b.value with
      | some v => print (name ++ "=" ++ singleQuoted v ++ "\n")
      | none => pure ()
    return 0
  let (left, forced) ← turnAll arguments
  if forced || !left.isEmpty then modify fun s => { s with parameters := left }
  return 0

/-! ### Folders -/

/-- Goes to another folder. -/
def cd : Builtin := fun arguments => do
  let words := arguments.filter fun w => !(["-L", "-P", "--"].contains w)
  let returning := words.head? = some "-"
  let goal ←
    match words with
    | [] => pure ((← value? "HOME").getD "")
    | "-" :: _ => pure ((← value? "OLDPWD").getD "")
    | word :: _ => pure word
  let before ← here
  let path := if goal.isEmpty then "." else goal
  match ← act (look fun t => (t.locate (pathOf path)).toOption.filter t.hasFolder) with
  | none => fault ("can't cd to " ++ goal)
  | some place =>
    act (modify fun m => { m with tree := { m.tree with here := place } })
    bind "OLDPWD" { ← binding "OLDPWD" with value := some before }
    bind "PWD" { ← binding "PWD" with value := some (← here) }
    if returning then print ((← here) ++ "\n")
    return 0

/-! ### Reading -/

/-- The characters of a line, and whether each has a backslash before it. With `raw`, backslashes
have no meaning. The flag says whether the line goes on. -/
def unescaped (raw : Bool) : List Char → List Mark × Bool
  | [] => ([], false)
  | '\\' :: '\n' :: rest => if raw then ([⟨'\\', false⟩, ⟨'\n', false⟩], false) else
      let (more, _) := unescaped raw rest
      (more, true)
  | '\\' :: c :: rest =>
    let (more, goes) := unescaped raw rest
    if raw then (⟨'\\', false⟩ :: (unescaped raw (c :: rest)).1, goes)
    else (⟨c, true⟩ :: more, goes)
  | c :: rest =>
    let (more, goes) := unescaped raw rest
    (⟨c, false⟩ :: more, goes)

/-- Takes a line of the input, with the lines that it goes on with; `fuel` bounds their number. The
flag says whether it ends with a line end. -/
def takeLines (raw : Bool) (number : Nat) : Nat → Run (List Mark × Bool)
  | 0 => return ([], false)
  | fuel + 1 => do
    match ← act (takeLine number) with
    | .error _ => return ([], false)
    | .ok octets =>
      let cs := (Octetwise.read octets).toList
      let (marks, goes) := unescaped raw cs
      if goes then
        let (more, ended) ← takeLines raw number fuel
        return (marks ++ more, ended)
      else if marks.getLast? = some ⟨'\n', false⟩ then return (marks.dropLast, true)
      else return (marks, false)

/-- Whether a mark is a separator that is a blank. -/
def isBlankMark (separators : List Char) (m : Mark) : Bool :=
  !m.quoted && separators.contains m.char && Cutting.isBlank m.char

/-- Whether a mark is a separator. -/
def isSeparator (separators : List Char) (m : Mark) : Bool :=
  !m.quoted && separators.contains m.char

/-- Gives the fields of a line to variables; the last one gets all that is left. -/
def distribute (separators : List Char) : List String → List Mark → List (String × String)
  | [], _ => []
  | [name], marks =>
    let rest := marks.dropWhile (isBlankMark separators)
    let pieces := rest.map fun m => Piece.char m.char m.quoted true
    match fieldsOf separators pieces with
    | [field] => [(name, Glob.textOf field)]
    | _ =>
      [(name, Glob.textOf (rest.reverse.dropWhile (isBlankMark separators)).reverse)]
  | name :: names, marks =>
    let rest := marks.dropWhile (isBlankMark separators)
    let field := rest.takeWhile fun m => !isSeparator separators m
    let behind := (rest.drop field.length).dropWhile (isBlankMark separators)
    let behind :=
      match behind with
      | m :: more => if isSeparator separators m && !isBlankMark separators m then more else behind
      | [] => []
    (name, Glob.textOf field) :: distribute separators names behind

/-- Reads a line of the input into variables. -/
def read : Builtin := fun arguments => do
  let options := arguments.takeWhile fun w => w.toList.head? = some '-'
  let raw := options.any fun w => w.toList.contains 'r'
  let names := arguments.drop options.length
  let names := if options.any (· = "-p") then names.drop 1 else names
  if names.isEmpty then fault "arg count"
  match (← get).descriptors.lookup 0 with
  | none => return 1
  | some number =>
    let (marks, ended) ← takeLines raw number 1000
    for (name, text) in distribute (← separators) names marks do
      checkName name
      assign name text
    return if ended then 0 else 1

/-! ### Options of scripts -/

/-- Takes the next option off the parameters. -/
def getopts : Builtin := fun arguments => do
  match arguments with
  | known :: name :: words =>
    let s ← get
    let words := if words.isEmpty then s.parameters else words
    let letters := s.letters
    let next := (((← value? "OPTIND").bind String.toNat?).getD 1)
    let index := if letters = 0 then next else next - 1
    let finish (index letters : Nat) (option : String) (argument : Option String) (status : Nat) :
        Run Nat := do
      modify fun s => { s with letters := letters }
      assign "OPTIND" (toString (if letters = 0 then index else index + 1))
      match argument with
      | some v => assign "OPTARG" v
      | none => unbind "OPTARG"
      assign name option
      return status
    let word := words.getD (index - 1) ""
    let silent := known.toList.head? = some ':'
    match word.toList with
    | '-' :: c :: cs =>
      if word = "--" then finish (index + 1) 0 "?" none 1
      else
        match (c :: cs).drop letters with
        | [] => finish index 0 "?" none 1
        | letter :: rest =>
          let next := if rest.isEmpty then index + 1 else index
          let after := if rest.isEmpty then 0 else letters + 1
          let shown := String.singleton letter
          match known.toList.dropWhile (· ≠ letter) with
          | [] =>
            if silent then finish next after "?" (some shown) 0
            else
              let _ ← write 2 ("Illegal option -" ++ shown ++ "\n")
              finish next after "?" none 0
          | _ :: ':' :: _ =>
            if !rest.isEmpty then finish (index + 1) 0 shown (some (String.ofList rest)) 0
            else
              match words[index]? with
              | some v => finish (index + 2) 0 shown (some v) 0
              | none =>
                if silent then finish (index + 1) 0 ":" (some shown) 0
                else
                  let _ ← write 2 ("No arg for -" ++ shown ++ " option\n")
                  finish (index + 1) 0 "?" none 0
          | _ => finish next after shown (some "") 0
    | _ => finish index 0 "?" none 1
  | _ => fault "Usage: getopts optstring var [arg...]"

/-! ### Signals -/

/-- The names of the signals, in order, from the first on. -/
def signals : List String :=
  ["HUP", "INT", "QUIT", "ILL", "TRAP", "ABRT", "BUS", "FPE", "KILL",
  "USR1", "SEGV", "USR2", "PIPE",
    "ALRM", "TERM", "STKFLT", "CHLD", "CONT", "STOP", "TSTP", "TTIN", "TTOU", "URG", "XCPU", "XFSZ",
    "VTALRM", "PROF", "WINCH", "POLL", "PWR", "SYS"]

/-- The name of the event that a word gives: a signal by its name or number, or the end. -/
def eventOf (word : String) : Option String :=
  if word = "0" || word = "EXIT" then some "EXIT"
  else if word.toList.all Char.isDigit then (word.toNat?).bind fun n => signals[n - 1]?
  else if signals.contains word.toUpper then some word.toUpper
  else none

/-- Sets or lists what is to be run in certain events. -/
def trap : Builtin := fun arguments => do
  let arguments := if arguments.head? = some "--" then arguments.drop 1 else arguments
  match arguments with
  | [] =>
    for (event, text) in (← get).traps do
      print ("trap -- " ++ singleQuoted text ++ " " ++ event ++ "\n")
    return 0
  | first :: rest =>
    let alone := rest.isEmpty || (!first.isEmpty && first.toList.all Char.isDigit)
    let events := if alone then arguments else rest
    let action := if alone || first = "-" then none else some first
    for word in events do
      match eventOf word with
      | none =>
        let _ ← write 2 ("trap: " ++ word ++ ": bad trap\n")
        return 1
      | some event =>
        modify fun s =>
          let others := s.traps.filter fun t => t.1 ≠ event
          { s with traps := others ++ (action.map fun text => (event, text)).toList }
    return 0

/-- The number of a signal. -/
def signalIn (word : String) : Option Nat :=
  if word = "0" then some 0
  else (eventOf word).bind fun event => (signals.idxOf? event).map (· + 1)

/-- Lists the signals, or the name of one. -/
def listSignals (arguments : List String) : Run Nat := do
  match arguments with
  | [] =>
    print ("0\n" ++ String.join (signals.map (· ++ "\n")))
    return 0
  | word :: _ =>
    let n := (← numberIn word) % 128
    print ((signals.getD (n - 1) "") ++ "\n")
    return 0

/-- Sends a signal to the shell itself: the action for it, or its end. -/
def receive (signal : Nat) : Run (Option String) := do
  let event := signals.getD (signal - 1) ""
  if signal = 0 || ["CHLD", "CONT", "URG", "WINCH"].contains event then return none
  match (← get).traps.lookup event with
  | some text => if event = "KILL" then throw (.exit (128 + signal)) else return some text
  | none => throw (.exit (128 + signal))

/-! ### Names of commands -/

/-- The commands of the shell that are no part of its grammar. -/
def ordinaryNames : List String :=
  ["[", "alias", "bg", "cd", "chdir", "command", "echo", "false", "fg", "getopts", "hash", "jobs",
    "kill", "printf", "pwd", "read", "test", "true", "type", "ulimit", "umask", "unalias",
    "wait"]

/-- The path of the program of a name. -/
def programPath (library : Library) (name : String) : Run (Option String) := do
  return Library.find? library ((← value? "PATH").getD "") name (← act get)

/-- What a name means, in a sentence or, if `short`, as a word; none if it means nothing. -/
def meaning (library : Library) (short : Bool) (name : String) : Run (Option String) := do
  let sentence (text : String) : Option String :=
    some (if short then name else name ++ " is " ++ text)
  if keywords.contains name then return sentence "a shell keyword"
  else if specialNames.contains name then return sentence "a special shell builtin"
  else if (← get).functions.any (fun f => f.1 = name) then return sentence "a shell function"
  else if ordinaryNames.contains name then return sentence "a shell builtin"
  else
    match ← programPath library name with
    | some path =>
      let known := (← get).found.contains name
      modify fun s => { s with found := name :: s.found }
      if short then return some path
      else if known then return some (name ++ " is a tracked alias for " ++ path)
      else return some (name ++ " is " ++ path)
    | none => return none

/-- Says what names mean. -/
def type (library : Library) : Builtin := fun arguments => do
  let mut status := 0
  for name in arguments do
    match ← meaning library false name with
    | some text => print (text ++ "\n")
    | none =>
      print (name ++ ": not found\n")
      status := 127
  return status

/-- Remembers where programs are. -/
def hash (library : Library) : Builtin := fun arguments => do
  let mut status := 0
  for name in arguments do
    if name ≠ "-r" && (← meaning library true name).isNone then
      complain (name ++ ": not found")
      status := 1
  return status

/-- Knows no other names of commands. -/
def otherNames (title : String) : Builtin := fun arguments => do
  let mut status := 0
  for word in arguments do
    if !word.toList.contains '=' && word ≠ "-a" then
      let _ ← write 2 (title ++ ": " ++ word ++ " not found\n")
      status := 1
  return status

end Builtin

/-- The commands that are part of the shell and run no others, by their names. -/
def builtin? (library : Library) : String → Option Builtin
  | ":" | "true" => some (Builtin.ending 0)
  | "false" => some (Builtin.ending 1)
  | "echo" => some Builtin.echo
  | "printf" => some Builtin.printf
  | "test" | "[" => some (Builtin.ofProgram Condition.shellProgram)
  | "pwd" => some Builtin.pwd
  | "umask" => some Builtin.umask
  | "times" => some Builtin.times
  | "ulimit" => some Builtin.ulimit
  | "exit" => some Builtin.exit
  | "return" => some Builtin.back
  | "break" => some Builtin.leave
  | "continue" => some Builtin.again
  | "export" => some Builtin.sharing
  | "readonly" => some Builtin.readonly
  | "local" => some Builtin.localizing
  | "unset" => some Builtin.unset
  | "shift" => some Builtin.shift
  | "set" => some Builtin.configure
  | "cd" | "chdir" => some Builtin.cd
  | "read" => some Builtin.read
  | "getopts" => some Builtin.getopts
  | "trap" => some Builtin.trap
  | "type" => some (Builtin.type library)
  | "hash" => some (Builtin.hash library)
  | "alias" => some (Builtin.otherNames "alias")
  | "unalias" => some (Builtin.otherNames "unalias")
  | "jobs" => some (Builtin.ending 0)
  | "fg" | "bg" => some fun _ => fault "No current job"
  | _ => none

end WidgetForge.Shell
