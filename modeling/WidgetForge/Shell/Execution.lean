import WidgetForge.Shell.Builtin

/-!
# Running commands

How each kind of command is run, given an interpreter for the commands in it. The interpreter itself
is this, applied again as often as a bound on the depth allows.
-/

namespace WidgetForge.Shell

open Machine Text Run

/-! ### Ends of all kinds -/

/-- Goes on with what a command comes to when the shell should end if it fails. -/
def checked (tested : Bool) (status : Nat) : Run Nat := do
  if status ≠ 0 && !tested && (← option 'e') then throw (.exit status)
  return status

/-- Runs an action with the loops around it hidden, and turns the jump that ends a function into its
status. -/
def returning (action : Run Nat) : Run Nat := do
  try
    action
  catch jump =>
    match jump with
    | .back status => return status
    | jump => throw jump

/-! ### Descriptors -/

/-- Leads a descriptor to a channel. -/
def lead (descriptor number : Nat) : Run Unit :=
  modify fun s =>
    { s with descriptors := (descriptor, number) :: s.descriptors.filter (·.1 ≠ descriptor) }

/-- Closes a descriptor. -/
def unlead (descriptor : Nat) : Run Unit :=
  modify fun s => { s with descriptors := s.descriptors.filter (·.1 ≠ descriptor) }

/-- What is said of a file that cannot be opened. -/
def openFault (e : Disk.OsError) (missing : String) : String :=
  if e = .noEntry || e = .notFolder then missing else e.wording

/-- Opens a file and leads a descriptor to it; says whether that worked. -/
def openFor (descriptor : Nat) (file : String) (access : Access) : Run Bool := do
  match ← act (openAt (pathOf file) access (← get).descriptors) with
  | .ok number =>
    lead descriptor number
    return true
  | .error e =>
    match access with
    | .read => complain ("cannot open " ++ file ++ ": " ++ openFault e "No such file")
    | _ => complain ("cannot create " ++ file ++ ": " ++ openFault e "Directory nonexistent")
    return false

/-- Whether a file stands at a path. -/
def holdsFile (file : String) : Run Bool :=
  act (look fun t =>
    match t.lookUp (pathOf file) with
    | .ok (.file _) => true
    | _ => false)

/-- Leads a descriptor elsewhere; says whether that worked. -/
def redirect (i : Interpreter) : Redirection → Run Bool
  | .read descriptor w => do openFor descriptor (← i.single w) .read
  | .update descriptor w => do openFor descriptor (← i.single w) .update
  | .append descriptor w => do openFor descriptor (← i.single w) .append
  | .write descriptor w clobber => do
    let file ← i.single w
    if !clobber && (← option 'C') && (← holdsFile file) then
      complain ("cannot create " ++ file ++ ": File exists")
      return false
    openFor descriptor file .write
  | .here descriptor w => do
    let text ← i.text w
    lead descriptor (← act (opened (.memory (Octetwise.write text))))
    return true
  | .same descriptor w => do
    let text ← i.single w
    match text.toList with
    | ['-'] =>
      unlead descriptor
      return true
    | [c] =>
      if !c.isDigit then fault "Syntax error: Bad fd number"
      match (← get).descriptors.lookup (c.toNat - 48) with
      | some number =>
        lead descriptor number
        return true
      | none =>
        complain (text ++ ": Bad file descriptor")
        return false
    | _ => fault "Syntax error: Bad fd number"

/-- Leads descriptors elsewhere, up to the first that cannot be. -/
def redirectAll (i : Interpreter) : List Redirection → Run Bool
  | [] => return true
  | r :: rest => do if ← redirect i r then redirectAll i rest else return false

/-- Runs an action and leads the descriptors back to where they were. -/
def keepingDescriptors {α : Type} (action : Run α) : Run α := do
  let before := (← get).descriptors
  let restore : Run Unit := modify fun s => { s with descriptors := before }
  try
    let result ← action
    restore
    return result
  catch jump =>
    restore
    throw jump

/-! ### Scripts -/

/-- Runs the lines of a script; `fuel` bounds their number. -/
def runLines (i : Interpreter) (tested : Bool) : Nat → Source → Nat → Run Nat
  | 0, _, status => return status
  | fuel + 1, source, status => do
    match readLine source with
    | .error refusal =>
      modify fun s => { s with line := refusal.line }
      fault ("Syntax error: " ++ refusal.reason)
    | .ok none => return status
    | .ok (some (c, rest)) =>
      match c with
      | .nothing => runLines i tested fuel rest status
      | c =>
        let status ← i.execute tested c
        runLines i tested fuel rest status

/-- Runs a script. -/
def runText (i : Interpreter) (tested : Bool) (text : String) : Run Nat :=
  let cs := text.toList
  runLines i tested (cs.length + 1) (.ofText cs 1) 0

/-- Runs a script with the line of the shell kept. -/
def runInner (i : Interpreter) (tested : Bool) (text : String) : Run Nat := do
  let line := (← get).line
  let status ← runText i tested text
  modify fun s => { s with line := line }
  return status

/-- Runs what is to be run in an event, and keeps the status. -/
def runTrap (i : Interpreter) (text : String) : Run Unit := do
  let status := (← get).status
  let _ ← runInner i false text
  modify fun s => { s with status := status }

/-! ### Jobs -/

/-- Puts a command aside to be run when somebody waits for it. -/
def putAside (c : Command) : Run Nat := do
  let s ← get
  let number := (s.job.getD 4096) + 1
  let nothing ← act (opened .nothing)
  let job : Job :=
    { number := number, command := c, parameters := s.parameters, bindings := s.bindings
      functions := s.functions
      descriptors := (0, nothing) :: s.descriptors.filter (·.1 ≠ 0) }
  set { s with job := some number, jobs := s.jobs ++ [job] }
  return 0

/-- Runs a job. -/
def runJob (i : Interpreter) (job : Job) : Run Nat :=
  Interpreter.apart do
    modify fun s =>
      { s with
        parameters := job.parameters
        bindings := job.bindings
        functions := job.functions
        descriptors := job.descriptors }
    i.execute true job.command

/-- Runs all jobs that have been put aside, and says how each ended. -/
def runJobs (i : Interpreter) : Run (List (Nat × Nat)) := do
  let jobs := (← get).jobs
  modify fun s => { s with jobs := [] }
  jobs.mapM fun job => do return (job.number, ← runJob i job)

/-- Ends a shell: what is to be run at its end is run, and the jobs that are left. -/
def finish (i : Interpreter) (action : Run Nat) : Run Nat := do
  let settle (action : Run Nat) : Run Nat := do
    try
      action
    catch jump =>
      match jump with
      | .exit status => return status
      | .fault status => return status
      | .back status => return status
      | _ => return (← get).status
  let status ← settle action
  let s ← get
  set { s with status := status, traps := s.traps.filter fun t => t.1 ≠ "EXIT" }
  let status ←
    match s.traps.lookup "EXIT" with
    | none => pure status
    | some text =>
      settle do
        let _ ← runInner i false text
        return status
  let _ ← runJobs i
  return status

/-- Runs an action in a shell of its own. -/
def inShell (i : Interpreter) (action : Run Nat) : Run Nat := Interpreter.apart (finish i action)

/-! ### Functions and programs -/

/-- Runs a function. -/
def runFunction (i : Interpreter) (tested : Bool) (body : Command) (arguments : List String) :
    Run Nat := do
  let before ← get
  set { before with parameters := arguments, frames := [] :: before.frames, loops := 0 }
  let restore : Run Unit := do
    for (name, old) in (← get).frames.headD [] do
      match old with
      | some b => bind name b
      | none => unbind name
    modify fun s =>
      { s with parameters := before.parameters, frames := before.frames, loops := before.loops }
  try
    let status ← returning (i.execute tested body)
    restore
    return status
  catch jump =>
    restore
    throw jump

/-- Runs a program, which is looked for where it may stand. -/
def runProgram (i : Interpreter) (words : List String) : Run Nat := do
  let name := words.headD ""
  if name = "sleep" then
    let _ ← runJobs i
  match ← Builtin.programPath i.library name with
  | some path =>
    modify fun s => { s with found := name :: s.found }
    act (Library.runPath i.library path ⟨name, words.drop 1, ← environment, (← get).descriptors⟩)
  | none =>
    let stands ← act (look fun t => (t.locate (pathOf name)).toBool)
    if name.toList.contains '/' && stands then
      complain (name ++ ": Permission denied")
      return 126
    else
      complain (name ++ ": not found")
      return 127

/-- Gives values to variables, one after the other. -/
def assignAll (i : Interpreter) (values : List (String × Word)) : Run (List (String × String)) :=
  values.mapM fun (name, w) => do
    let value ← i.value w
    assign name value
    return (name, value)

/-- Runs an action with variables that exist only meanwhile, and that programs find. -/
def withVariables (i : Interpreter) (values : List (String × Word))
    (action : List (String × String) → Run Nat) : Run Nat := do
  let before := (← get).bindings
  let names := values.map Prod.fst
  let restore : Run Unit :=
    modify fun s =>
      { s with bindings :=
          (s.bindings.filter fun b => !names.contains b.1) ++
            before.filter fun b => names.contains b.1 }
  try
    let assigned ← assignAll i values
    for name in names do
      bind name { ← binding name with exported := true }
    let status ← action assigned
    restore
    return status
  catch jump =>
    restore
    throw jump

/-- Does something as a command that is part of the shell. -/
def asCommand (name : String) (action : Run Nat) : Run Nat := do
  let before := (← get).command
  modify fun s => { s with command := some name }
  let restore : Run Unit := modify fun s => { s with command := before }
  try
    let status ← action
    restore
    return status
  catch jump =>
    restore
    throw jump

/-- A fault in a command as its status. -/
def contained (action : Run Nat) : Run Nat := do
  try
    action
  catch jump =>
    match jump with
    | .fault status => return status
    | jump => throw jump

/-! ### Commands that run others -/

/-- Runs the text that its arguments make. -/
def evaluate (i : Interpreter) (tested : Bool) (arguments : List String) : Run Nat :=
  runInner i tested (" ".intercalate arguments)

/-- Runs a file in the shell itself. -/
def source (i : Interpreter) (tested : Bool) (arguments : List String) : Run Nat := do
  match arguments with
  | [] => return 0
  | name :: _ =>
    let candidates ←
      if name.toList.contains '/' then pure [name]
      else pure ((Library.searched ((← value? "PATH").getD "")).map fun folder =>
        if folder.isEmpty then name else folder ++ "/" ++ name)
    let m ← act get
    let isFile (path : String) : Bool :=
      match m.tree.lookUp (pathOf path) with
      | .ok (.file _) => true
      | _ => false
    match candidates.find? isFile with
    | none =>
      if name.toList.contains '/' then fault ("cannot open " ++ name ++ ": No such file")
      else fault (name ++ ": not found")
    | some path =>
      let s ← get
      let p : Invocation := ⟨name, [], [], s.descriptors⟩
      match ← act (p.contents path) with
      | .error e => fault ("cannot open " ++ name ++ ": " ++ e.wording)
      | .ok content => asCommand path (returning (runInner i tested content))

/-- Waits for jobs. -/
def wait (i : Interpreter) (arguments : List String) : Run Nat := do
  let ended ← runJobs i
  match arguments.getLast? with
  | none => return 0
  | some word =>
    let last := (← get).job
    let number := if word.toList.head? = some '%' then last else word.toNat?
    return ((number.bind fun n => ended.lookup n).getD 127)

/-- Sends a signal. -/
def kill (i : Interpreter) (arguments : List String) : Run Nat := do
  let usage : Run Nat := fault
    "Usage: kill [-s sigspec | -signum | -sigspec] [pid | job]... or\nkill -l [exitstatus]"
  let send (signal : String) (goals : List String) : Run Nat := do
    match Builtin.signalIn signal with
    | none => fault ("invalid signal number or name: " ++ signal)
    | some n =>
      let mut status := 0
      for goal in goals do
        if goal = shellNumber then
          match ← Builtin.receive n with
          | some text => runTrap i text
          | none => pure ()
        else
          let jobs := (← get).jobs
          if jobs.any fun job => toString job.number = goal || goal.toList.head? = some '%' then
            modify fun s => { s with jobs := jobs.filter fun job => toString job.number ≠ goal }
          else
            let _ ← numberIn goal
            complain "No such process\n"
            status := 1
      return status
  match arguments with
  | [] => usage
  | "-l" :: rest => Builtin.listSignals rest
  | "-s" :: signal :: rest => send signal rest
  | "--" :: rest => send "TERM" rest
  | word :: rest =>
    match word.toList with
    | '-' :: signal => send (String.ofList signal) rest
    | _ => send "TERM" arguments

/-- Which kind of command a word names. -/
inductive Meaning where
  /-- A function. -/
  | function (body : Command)
  /-- A command that is part of the shell, and whether it is a special one. -/
  | builtin (special : Bool) (run : Builtin)
  /-- A program. -/
  | program

mutual

/-- The commands that run others, by their names; `fuel` bounds how often one may name the next. -/
def outer? (i : Interpreter) (tested : Bool) : Nat → String → Option Builtin
  | 0, _ => none
  | fuel + 1, name =>
    match name with
    | "eval" => some (evaluate i tested)
    | "." => some (source i tested)
    | "wait" => some (wait i)
    | "kill" => some (kill i)
    | "command" => some (command i tested fuel)
    | "exec" => some fun arguments => do
      if arguments.isEmpty then return 0 else throw (.exit (← runProgram i arguments))
    | _ => none

/-- Says what a name means, or runs it, but not as a function. -/
def command (i : Interpreter) (tested : Bool) : Nat → List String → Run Nat
  | 0, _ => return 127
  | fuel + 1, arguments => do
    match arguments with
    | [] => return 0
    | "-p" :: rest => command i tested fuel rest
    | "--" :: rest => command i tested fuel rest
    | "-v" :: name :: _ =>
      match ← Builtin.meaning i.library true name with
      | some text =>
        print (text ++ "\n")
        return 0
      | none => return 127
    | "-V" :: name :: _ => Builtin.type i.library [name]
    | name :: rest =>
      match (outer? i tested fuel name).orElse fun _ => builtin? i.library name with
      | some run => asCommand name (contained (run rest))
      | none =>
        let before := (← get).command
        modify fun s => { s with command := none }
        let status ← runProgram i arguments
        modify fun s => { s with command := before }
        return status

end

/-- What a word means as the name of a command. -/
def meaningOf (i : Interpreter) (tested : Bool) (name : String) : Run Meaning := do
  let part := (outer? i tested 4 name).orElse fun _ => builtin? i.library name
  if specialNames.contains name then
    match part with
    | some run => return .builtin true run
    | none => pure ()
  match (← get).functions.lookup name with
  | some body => return .function body
  | none =>
    match part with
    | some run => return .builtin false run
    | none => return .program

/-! ### Commands -/

/-- Shows a command before it is run, if the shell is to do that. -/
def trace (assigned : List (String × String)) (words : List String) : Run Unit := do
  if ← option 'x' then
    let start := (← value? "PS4").getD "+ "
    let shown := assigned.map (fun a => a.1 ++ "=" ++ a.2) ++ words
    let _ ← write 2 (start ++ " ".intercalate shown ++ "\n")

/-- The words of a simple command. -/
def expandAll (i : Interpreter) (words : List Word) : Run (List String) := do
  let marking := match words.head?.bind Word.plain? with
    | some name => ["export", "readonly", "local"].contains name
    | none => false
  let all ← words.mapM fun w => do
    match if marking then assignmentOf w else none with
    | some (name, v) => return [name ++ "=" ++ (← i.value v)]
    | none => i.words w
  return all.flatten

/-- Runs a simple command. -/
def runSimple (i : Interpreter) (tested : Bool) (assignments : List (String × Word))
    (words : List Word) (redirections : List Redirection) : Run Nat := do
  modify fun s => { s with inner := none }
  let words ← expandAll i words
  let name := words.headD ""
  let meaning ← meaningOf i tested name
  let lasting : Bool := name = "exec" && words.length = 1
  let before := (← get).descriptors
  let finishing (action : Run Nat) : Run Nat := do
    try
      let status ← action
      if !lasting then modify fun s => { s with descriptors := before }
      return status
    catch jump =>
      modify fun s => { s with descriptors := before }
      throw jump
  finishing do
    if !(← redirectAll i redirections) then
      match meaning with
      | .builtin true _ => throw (.fault 2)
      | _ => return 2
    let arguments := words.drop 1
    if words.isEmpty then
      trace (← assignAll i assignments) words
      return (← get).inner.getD 0
    let action : Run Nat :=
      match meaning with
      | .function body => runFunction i tested body arguments
      | .builtin true run => asCommand name (run arguments)
      | .builtin false run => asCommand name (contained (run arguments))
      | .program => runProgram i words
    match meaning with
    | .builtin true _ =>
      trace (← assignAll i assignments) words
      action
    | _ =>
      withVariables i assignments fun assigned => do
        trace assigned words
        action

/-- Runs stages that are joined by pipes, from the first on. -/
def runStages (i : Interpreter) : List Command → Run Nat
  | [] => return 0
  | [last] => inShell i (i.execute false last)
  | c :: rest => do
    let number ← act (opened (.memory []))
    let _ ← inShell i do
      lead 1 number
      i.execute false c
    keepingDescriptors do
      lead 0 number
      runStages i rest

/-- Runs the body of a loop once: its status, and whether the loop goes on. -/
def turnOf (action : Run Nat) : Run (Nat × Bool) := do
  try
    return (← action, true)
  catch jump =>
    match jump with
    | .leave n => if 1 < n then throw (.leave (n - 1)) else return (0, false)
    | .again n => if 1 < n then throw (.again (n - 1)) else return (0, true)
    | jump => throw jump

/-- Runs an action as a loop. -/
def asLoop (action : Run Nat) : Run Nat := do
  modify fun s => { s with loops := s.loops + 1 }
  let restore : Run Unit := modify fun s => { s with loops := s.loops - 1 }
  try
    let status ← action
    restore
    return status
  catch jump =>
    restore
    throw jump

/-- How often a loop may turn. -/
def mostTurns : Nat := 100000

/-- Runs a command as long as a condition succeeds or fails; `fuel` bounds the turns. -/
def runLoop (i : Interpreter) (tested fails : Bool) (condition body : Command) :
    Nat → Nat → Run Nat
  | 0, status => return status
  | fuel + 1, status => do
    let (c, goes) ← turnOf (i.execute true condition)
    if !goes then return 0
    if (c = 0) = fails then return status
    let (status, goes) ← turnOf (i.execute tested body)
    if goes then runLoop i tested fails condition body fuel status else return status

/-- Runs a command for each word. -/
def runEach (i : Interpreter) (tested : Bool) (name : String) (body : Command) :
    Nat → List String → Run Nat
  | status, [] => return status
  | _, word :: rest => do
    assign name word
    let (status, goes) ← turnOf (i.execute tested body)
    if goes then runEach i tested name body status rest else return status

/-- Whether a text fits one of some patterns. -/
def fitsSome (i : Interpreter) (text : String) : List Word → Run Bool
  | [] => return false
  | w :: rest => do
    if (← i.clausePattern w).holds text.toList then return true else fitsSome i text rest

/-- Runs the command of the first clause that has a pattern for a text. -/
def runChoice (i : Interpreter) (tested : Bool) (text : String) :
    List (List Word × Command) → Run Nat
  | [] => return 0
  | (patterns, body) :: rest => do
    if ← fitsSome i text patterns then
      match body with
      | .nothing => return 0
      | body => i.execute tested body
    else runChoice i tested text rest

/-- Remembers the line that is being run. -/
def atLine (line : Nat) : Run Unit := modify fun s => { s with line := line }

/-- Runs a command. -/
def run (i : Interpreter) (tested : Bool) : Command → Run Nat
  | .nothing => return 0
  | .simple line assignments words redirections => do
    atLine line
    checked tested (← runSimple i tested assignments words redirections)
  | .pipe stages => do checked tested (← runStages i stages)
  | .negation c => do return if (← i.execute true c) = 0 then 1 else 0
  | .both a b => do
    let status ← i.execute true a
    if status = 0 then i.execute tested b else return status
  | .either a b => do
    let status ← i.execute true a
    if status = 0 then return status else i.execute tested b
  | .sequence a b => do
    let _ ← i.execute tested a
    i.execute tested b
  | .background c => putAside c
  | .subshell c => do checked tested (← inShell i (i.execute tested c))
  | .redirected line c redirections => do
    atLine line
    keepingDescriptors do
      if ← redirectAll i redirections then i.execute tested c else return 2
  | .branch condition yes no => do
    if (← i.execute true condition) = 0 then i.execute tested yes else i.execute tested no
  | .loop fails condition body => asLoop (runLoop i tested fails condition body mostTurns 0)
  | .each line name words body => do
    atLine line
    let all ←
      match words with
      | none => do
        let s ← get
        pure s.parameters
      | some ws => do
        let all ← ws.mapM i.words
        pure all.flatten
    asLoop (runEach i tested name body 0 all)
  | .choose line w clauses => do
    atLine line
    runChoice i tested (← i.single w) clauses
  | .define name body => do
    modify fun s =>
      { s with functions := (name, body) :: s.functions.filter fun f => f.1 ≠ name }
    return 0

mutual

/-- Runs a command, no deeper than a bound. -/
def executeWithin (library : Library) : Nat → Bool → Command → Run Nat
  | 0, _, _ => throw (.exit 2)
  | n + 1, tested, c => do
    if ← option 'n' then return 0
    ended (← run ⟨executeWithin library n, expandWithin library n, library⟩ tested c)

/-- The pieces of a word, no deeper than a bound. -/
def expandWithin (library : Library) : Nat → Word → Run (List Piece)
  | 0, _ => return []
  | n + 1, w => Interpreter.pieces ⟨executeWithin library n, expandWithin library n, library⟩ w

end

/-- How deep commands may be nested. -/
def depthLimit : Nat := 10000

/-- The interpreter. -/
def Interpreter.standard (library : Library) : Interpreter :=
  ⟨executeWithin library depthLimit, expandWithin library depthLimit, library⟩

end WidgetForge.Shell
