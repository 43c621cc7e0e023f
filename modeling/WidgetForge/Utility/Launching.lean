import WidgetForge.Machine.Launch
import WidgetForge.Text.Replace
import WidgetForge.Utility.Escape
import WidgetForge.Utility.Files

/-!
# Programs that run others

These programs run another one in a changed environment, or again and again with what they read as
its arguments.
-/

namespace WidgetForge.Utility.Launching

open Disk Machine Text

/-- Runs a command in the name of a program, which complains if the command cannot be run. -/
def runFor (library : Library) (p inner : Invocation) (words : List String)
    (complaint : String → String) : Act Nat := do
  match ← Library.launch library { inner with name := p.name } words with
  | .ok status => return status
  | .error e =>
    p.report (complaint (words.headD "") ++ ": " ++ e.wording)
    return if e = .noEntry then 127 else 126

/-- A name and a value in a word. -/
def assignment? (word : String) : Option (String × String) :=
  let name := word.toList.takeWhile (· ≠ '=')
  if name.length < word.length then
    some (String.ofList name, String.ofList (word.toList.drop (name.length + 1)))
  else none

/-- The environment with a value for a name. -/
def withValue (name value : String) : List (String × String) → List (String × String)
  | [] => [(name, value)]
  | (n, v) :: rest => if n = name then (n, value) :: rest else (n, v) :: withValue name value rest

/-- Runs a command in another environment, or prints the environment. -/
def env (library : Library) : Program := fun p =>
  let o : Utility.Options :=
    ⟨"i0v", "uCS", [("ignore-environment", 'i'), ("null", '0'), ("unset", 'u'), ("chdir", 'C'),
      ("split-string", 'S'), ("debug", 'v')], false⟩
  let plain := p.arguments.takeWhile (· ≠ "-")
  let startsEmpty :=
    plain.all (fun w => w.toList.head? = some '-') && plain.length < p.arguments.length
  let words :=
    if startsEmpty then plain ++ ["-i"] ++ p.arguments.drop (plain.length + 1) else p.arguments
  withOptions o 125 { p with arguments := words } fun g => do
    let split := (g.values 'S').flatMap fun text =>
      ((split ' ' text.toList).filter fun w => !w.isEmpty).map String.ofList
    let operands := split ++ g.operands
    let kept := if g.has 'i' then [] else p.environment.filter fun v => !(g.values 'u').contains v.1
    let values := operands.takeWhile fun w => (assignment? w).isSome
    let environment := (values.filterMap assignment?).foldl (fun e v => withValue v.1 v.2 e) kept
    let command := operands.drop values.length
    let inner : Invocation := { p with environment := environment }
    match command with
    | [] =>
      for (name, value) in environment do
        p.print (name ++ "=" ++ value ++
          (if g.has '0' then String.singleton (Char.ofNat 0) else "\n"))
      return 0
    | _ =>
      if g.has '0' then misused p 125 "cannot specify --null (-0) with command"
      else
        let before := (← get).tree.here
        match g.value? 'C' with
        | none => runFor library p inner command Quoting.forShell
        | some folder =>
          match (← get).tree.locate (pathOf folder) with
          | .error e =>
            p.fail 125 ("cannot change directory to " ++ named folder ++ ": " ++ e.wording)
          | .ok place =>
            if !(← get).tree.hasFolder place then
              p.fail 125 ("cannot change directory to " ++ named folder ++ ": Not a directory")
            else
              modify fun m => { m with tree := { m.tree with here := place } }
              let status ← runFor library p inner command Quoting.forShell
              modify fun m => { m with tree := { m.tree with here := before } }
              return status

/-- Prints the values of names in the environment. -/
def printenv : Program := fun p =>
  withOptions ⟨"0", "", [("null", '0')], false⟩ 2 p fun g => do
    let lineEnd := if g.has '0' then String.singleton (Char.ofNat 0) else "\n"
    if g.operands.isEmpty then
      for (name, value) in p.environment do
        p.print (name ++ "=" ++ value ++ lineEnd)
      return 0
    else
      eachOperand g.operands fun name => do
        match p.value? name with
        | some value =>
          p.print (value ++ lineEnd)
          return 0
        | none => return 1

/-! ### Running as it is -/

/-- Runs a command as it is, behind options of its own. -/
def plainly (o : Utility.Options) (fault : Nat) (library : Library) : Program := fun p =>
  withOptions o fault p fun g => do
    if g.operands.isEmpty then misused p fault "missing operand"
    else
      runFor library p p g.operands fun name => "failed to run command " ++ Quoting.forShell name

/-- Whether a word is a length of time. -/
def isDuration (word : String) : Bool :=
  let cs := word.toList
  let digits := cs.takeWhile fun c => c.isDigit || c = '.'
  !digits.isEmpty && ["", "s", "m", "h", "d"].contains (String.ofList (cs.drop digits.length))

/-- Runs a command, which is never so slow that it has to be stopped. -/
def timeout (library : Library) : Program := fun p =>
  let o : Utility.Options :=
    ⟨"vfp", "ks", [("kill-after", 'k'), ("signal", 's'), ("verbose", 'v'), ("foreground", 'f'),
      ("preserve-status", 'p')], false⟩
  withOptions o 125 p fun g => do
    let help : Act Nat := do
      p.complain ("Try '" ++ p.name ++ " --help' for more information.\n")
      return 125
    match g.operands with
    | [] | [_] => help
    | duration :: words =>
      if !isDuration duration then
        misused p 125 ("invalid time interval " ++ Quoting.quoted duration)
      else
        runFor library p p words fun name => "failed to run command " ++ Quoting.forShell name

/-! ### Arguments from the input -/

/-- The words of a text, with quotes and backslashes; `apart` says what stands between words,
`current` is the word that has begun, last character first, and `fuel` bounds the number of
characters. A missing quote is an error. -/
def wordsUpTo (apart : Char → Bool) :
    Nat → Option (List Char) → List Char → Except Char (List (List Char))
  | 0, _, _ => .ok []
  | _, current, [] => .ok (current.map List.reverse).toList
  | fuel + 1, current, c :: rest =>
    let so := current.getD []
    if apart c then
      (wordsUpTo apart fuel none rest).map fun more => (current.map List.reverse).toList ++ more
    else if c = '\\' then
      match rest with
      | [] => .ok (current.map List.reverse).toList
      | d :: left => wordsUpTo apart fuel (some (d :: so)) left
    else if c = '\'' || c = '"' then
      let inside := rest.takeWhile fun d => d ≠ c && d ≠ '\n'
      match rest.drop inside.length with
      | d :: left =>
        if d = c then wordsUpTo apart fuel (some (inside.reverse ++ so)) left else .error c
      | [] => .error c
    else wordsUpTo apart fuel (some (c :: so)) rest

/-- The words of a text. -/
def wordsOf (text : List Char) : Except Char (List (List Char)) :=
  wordsUpTo isSpace (text.length + 1) none text

/-- A list in pieces of a length; `fuel` bounds their number. -/
def chunks {α : Type} (length : Nat) : Nat → List α → List (List α)
  | 0, _ => []
  | _, [] => []
  | fuel + 1, xs => xs.take length :: chunks length fuel (xs.drop length)

/-- Runs a command with what it reads as arguments. -/
def xargs (library : Library) : Program := fun p =>
  let o : Utility.Options :=
    ⟨"0rtpxo", "aEdILnsP", [("null", '0'), ("no-run-if-empty", 'r'), ("verbose", 't'),
      ("arg-file", 'a'), ("delimiter", 'd'), ("replace", 'I'), ("max-lines", 'L'),
      ("max-args", 'n'), ("max-procs", 'P'), ("max-chars", 's'), ("exit", 'x')], false⟩
  withOptions o 1 p fun g => do
    match ← p.contents ((g.value? 'a').getD "-") with
    | .error e =>
      p.fail 1 ("Cannot open input file " ++ named ((g.value? 'a').getD "-") ++ ": " ++ e.wording)
    | .ok text =>
      let mark : Option Char :=
        if g.has '0' then some (Char.ofNat 0)
        else (g.value? 'd').map fun v =>
          let known : Escapes := ⟨false, true, false, true, false⟩
          (known.resolve v).1.toList.headD (Char.ofNat 0)
      let lines := linesOf text.toList
      let unquoted (cs : List Char) : Except Char (List Char) :=
        (wordsUpTo (fun _ => false) (cs.length + 1) none cs).map List.flatten
      let items : Except Char (List (List Char)) :=
        match mark with
        | some c => .ok (linesBy c text.toList)
        | none =>
          if g.has 'I' then
            (lines.filter fun l => !(l.all isSpace)).mapM fun l => unquoted (l.dropWhile isBlank)
          else wordsOf text.toList
      match items with
      | .error c =>
        p.fail 1 ("unmatched " ++ (if c = '"' then "double" else "single") ++
          " quote; by default quotes are special to xargs unless you use the -0 option")
      | .ok items =>
        let command := if g.operands.isEmpty then ["echo"] else g.operands
        let number (letter : Char) : Option Nat :=
          (g.value? letter).bind fun v => plainNumber? v.toList
        let batches : List (List (List Char)) :=
          match number 'n', number 'L' with
          | some n, _ => chunks (max n 1) (items.length + 1) items
          | none, some n =>
            let filled := lines.filter fun l => !(l.all isSpace)
            (chunks (max n 1) (filled.length + 1) filled).map fun ls =>
              ls.flatMap fun l => ((wordsOf l).toOption).getD []
          | none, none => if items.isEmpty then [] else [items]
        let runs : List (List String) :=
          match g.value? 'I' with
          | some mark =>
            items.map fun item => command.map fun w =>
              if mark.isEmpty then w else replaceAll w mark (String.ofList item)
          | none =>
            let batches := if batches.isEmpty && !g.has 'r' then [[]] else batches
            batches.map fun batch => command ++ batch.map String.ofList
        let nothing ← Machine.opened .nothing
        let inner : Invocation :=
          { p with descriptors := (0, nothing) :: p.descriptors.filter fun d => d.1 ≠ 0 }
        let mut status := 0
        for words in runs do
          if g.has 't' then p.complain (" ".intercalate (words.map Quoting.shown) ++ "\n")
          let name := words.headD ""
          match ← Library.launch library inner words with
          | .error e =>
            p.report (name ++ ": " ++ e.wording)
            return if e = .noEntry then 127 else 126
          | .ok n =>
            if n = 255 then
              p.report (name ++ ": exited with status 255; aborting")
              return 124
            else if n ≠ 0 then status := 123
        return status

/-! ### Finding programs -/

/-- Prints the paths of programs. -/
def which (library : Library) : Program := fun p => do
  let all := p.arguments.contains "-a"
  let names := p.arguments.filter fun w => w ≠ "-a" && w ≠ "-s"
  let silent := p.arguments.contains "-s"
  let search := (p.value? "PATH").getD Library.usualPath
  let m ← get
  let mut status := if names.isEmpty then 1 else 0
  for name in names do
    let places := if name.toList.contains '/' then [""] else Library.searched search
    let found := places.filterMap fun folder =>
      Library.find? library folder (if folder.isEmpty then name else folder ++ "/" ++ name) m
    if found.isEmpty then status := 1
    if !silent then
      for path in if all then found else found.take 1 do
        p.print (path ++ "\n")
  return status

end WidgetForge.Utility.Launching
