import WidgetForge.Records.State

/-!
# Running scripts on records

Expressions have values, and statements do something. Each calls the other, so what is done at one
depth is defined by what can be done at the depth below it.
-/

namespace WidgetForge.Records

open Machine Utility Text Run

/-- What expressions and statements are worth at the depth below. -/
structure Evaluator where
  /-- The value of an expression. -/
  value : Expr → Run Value
  /-- Does what a statement says. -/
  run : Stmt → Run Unit
  /-- The functions of the script. -/
  functions : List Function
  /-- The programs that can be run. -/
  library : Library
  /-- What the program has been given. -/
  given : Invocation

namespace Evaluator

/-- The value of an expression as a text. -/
def text (e : Evaluator) (x : Expr) : Run String := do textOf (← e.value x)

/-- The value of an expression as a number. -/
def number (e : Evaluator) (x : Expr) : Run Float := return (← e.value x).toNumber

/-- The text of an index. -/
def index (e : Evaluator) (xs : List Expr) : Run String := do
  let texts ← xs.mapM e.text
  return (← setting "SUBSEP").intercalate texts

/-- The number of a field. -/
def fieldNumber (e : Evaluator) (x : Expr) : Run Nat := do
  let n := (wholePart (← e.number x)).getD 0
  if n < 0 then throw (.fault ("negative field index $" ++ toString n))
  return n.toNat

/-- Gives a value to a variable, a field or an item. -/
def store (e : Evaluator) (target : Expr) (v : Value) : Run Unit := do
  match target with
  | .var name => assign name v
  | .field x => setField (← e.fieldNumber x) v
  | .item name xs =>
    let i ← e.index xs
    setItem (← arrayOf name) i v
  | .group _ | _ => pure ()

/-- The text of a regular expression. -/
def pattern (e : Evaluator) : Expr → Run String
  | .regex s => return s
  | x => e.text x

/-! ### Arithmetic -/

/-- A number without its fraction. -/
def truncated (x : Float) : Float := if x < 0 then x.ceil else x.floor

/-- The result of an operator. -/
def calculate (operator : Operator) (x y : Float) : Float :=
  match operator with
  | .add => x + y
  | .sub => x - y
  | .mul => x * y
  | .div => x / y
  | .rem => x - y * truncated (x / y)
  | .pow => x.pow y

/-- Whether a comparison holds of an order. -/
def holds (c : Comparison) (o : Ordering) : Bool :=
  match c with
  | .lt => o = .lt
  | .le => o ≠ .gt
  | .eq => o = .eq
  | .ne => o ≠ .eq
  | .gt => o = .gt
  | .ge => o ≠ .lt

/-! ### Records -/

/-- Takes the first record off a text by the separator of records. -/
def takeRecord (separator : String) (cs : List Char) : Run (Option (List Char × List Char)) := do
  if cs.isEmpty then return none
  match separator.toList with
  | [c] =>
    let record := cs.takeWhile (· ≠ c)
    return some (record, cs.drop (record.length + 1))
  | [] =>
    let cs := cs.dropWhile (· = '\n')
    let rec upToGap : List Char → List Char
      | '\n' :: '\n' :: _ => []
      | ['\n'] => []
      | c :: rest => c :: upToGap rest
      | [] => []
    if cs.isEmpty then return none
    let record := upToGap cs
    return some (record, (cs.drop record.length).dropWhile (· = '\n'))
  | _ =>
    let r ← regexOf separator
    let text := cs.toArray
    match r.search manner text 0 with
    | some m =>
      if m.start < m.stop then return some (cs.take m.start, cs.drop m.stop)
      else return some (cs, [])
    | none => return some (if cs.getLast? = some '\n' then cs.dropLast else cs, [])

/-- A name and a value that are written as an assignment. -/
def assignment? (word : String) : Option (String × String) :=
  let name := word.toList.takeWhile (· ≠ '=')
  let isName := name.head?.any (fun c => c.isAlpha || c = '_') &&
    name.all fun c => c.isAlphanum || c = '_'
  if isName && name.length < word.length then
    some (String.ofList name, String.ofList (word.toList.drop (name.length + 1)))
  else none

/-- The escapes that are known outside the script. -/
def knownEscapes : Escapes := ⟨true, true, false, true, false⟩

/-- Gives a variable a value that is written outside the script. -/
def assignOutside (name value : String) : Run Unit :=
  assign name (Value.ofInput (knownEscapes.resolve value).1.toList)

/-- Opens a file, and gives its content. -/
def openFile (e : Evaluator) (name : String) : Run (List Char) := do
  match ← act (e.given.contents name) with
  | .ok content => return content.toList
  | .error err =>
    if err = .isFolder then throw (.refusal "read error (Is a directory)")
    else throw (.refusal ("cannot open \"" ++ name ++ "\" (" ++ err.wording ++ ")"))

/-- Opens the next file that is named among the arguments, and says whether there was one; `fuel`
bounds the number of arguments. -/
def openNext (e : Evaluator) : Nat → Run Bool
  | 0 => return false
  | fuel + 1 => do
    let s ← get
    let count := ((wholePart (← plain "ARGC").toNumber).getD 0).toNat
    if count ≤ s.next then
      if s.named then return false
      let content ← openFile e "-"
      set { s with named := true, current := some content }
      assign "FNR" (.number 0)
      return true
    else
      set { s with next := s.next + 1 }
      let array ← arrayOf "ARGV"
      let word : String ←
        match (← items array).lookup (toString s.next) with
        | some v => textOf v
        | none => pure ""
      if word.isEmpty then openNext e fuel
      else
        match assignment? word with
        | some (name, value) =>
          assignOutside name value
          openNext e fuel
        | none =>
          let content ← openFile e word
          modify fun s => { s with named := true, current := some content }
          assign "FILENAME" (.text word)
          assign "FNR" (.number 0)
          return true

/-- The next record of the input; `fuel` bounds the number of files. -/
def nextRecord (e : Evaluator) : Nat → Run (Option (List Char))
  | 0 => return none
  | fuel + 1 => do
    match (← get).current with
    | none => if ← openNext e 10000 then nextRecord e fuel else return none
    | some left =>
      match ← takeRecord (← setting "RS") left with
      | some (record, left) =>
        modify fun s => { s with current := some left }
        return some record
      | none =>
        modify fun s => { s with current := none }
        nextRecord e fuel

/-- Counts a record. -/
def count (ofFile : Bool) : Run Unit := do
  assign "NR" (.number ((← plain "NR").toNumber + 1))
  if ofFile then assign "FNR" (.number ((← plain "FNR").toNumber + 1))

/-- The most files among the arguments. -/
def fileLimit : Nat := 10000

/-! ### Commands -/

/-- Runs a command in a shell; gives its status. -/
def runShell (e : Evaluator) (command : String) (descriptors : List (Nat × Nat)) : Run Nat := do
  match e.library "sh" with
  | none => return 127
  | some shell =>
    act (shell { e.given with
      name := "sh", arguments := ["-c", command], descriptors := descriptors })

/-- Runs a command with a text as its input. -/
def feed (e : Evaluator) (command : String) (input : List Char) : Run Nat := do
  let number ← act (Machine.opened (.memory (Octetwise.write (String.ofList input))))
  runShell e command ((0, number) :: e.given.descriptors.filter fun d => d.1 ≠ 0)

/-- What a command prints. -/
def outputOf (e : Evaluator) (command : String) : Run (List Char) := do
  let number ← act (Machine.opened (.memory []))
  let _ ← runShell e command ((1, number) :: e.given.descriptors.filter fun d => d.1 ≠ 1)
  match ← act (Machine.takeAll number) with
  | .ok octets => return (Octetwise.read octets).toList
  | .error _ => return []

/-- Closes a file or a command by its name: the status, or minus one if there is none. -/
def close (e : Evaluator) (name : String) : Run Int := do
  let s ← get
  let known := s.written.contains name || s.readings.any fun r => r.name = name
  set { s with
    written := s.written.filter (· ≠ name)
    readings := s.readings.filter fun r => r.name ≠ name
    piped := s.piped.filter fun c => c.1 ≠ name }
  match s.piped.lookup name with
  | some input => return ((← feed e name input) : Nat)
  | none => return if known then 0 else -1

/-- Writes a text to where it goes. -/
def emit (e : Evaluator) (sink : Option (Sink × Expr)) (text : String) : Run Unit := do
  match sink with
  | none => act (e.given.print text)
  | some (kind, x) =>
    let name ← e.text x
    let s ← get
    match kind with
    | .command =>
      let before := (s.piped.lookup name).getD []
      set { s with piped := put name (before ++ text.toList) s.piped }
    | kind =>
      if name = "/dev/stdout" || name = "-" then act (e.given.print text)
      else if name = "/dev/stderr" then act (e.given.complain text)
      else
        let fresh := kind = .file && !s.written.contains name
        match ← act (e.given.store name (if fresh then .write else .append) text) with
        | .ok () => set { s with written := name :: s.written }
        | .error err =>
          throw (.refusal ("cannot open \"" ++ name ++ "\" for output (" ++ err.wording ++ ")"))

/-! ### Reading records on demand -/

/-- Takes a record from a file or a command that has been opened, or is opened now. -/
def readFrom (e : Evaluator) (source : Source) (name : String) :
    Run (Option (Option (List Char))) := do
  let opened ←
    match (← get).readings.find? fun r => r.name = name with
    | some r => pure (some r.left)
    | none =>
      match source with
      | .command => do pure (some (← outputOf e name))
      | _ =>
        match ← act (e.given.contents name) with
        | .ok content => pure (some content.toList)
        | .error _ => pure none
  match opened with
  | none => return none
  | some left =>
    let found ← takeRecord (← setting "RS") left
    let left := (found.map Prod.snd).getD []
    modify fun s =>
      { s with readings := ⟨name, left⟩ :: s.readings.filter fun r => r.name ≠ name }
    return some (found.map Prod.fst)

/-- Reads a record: one if there was one, zero at the end, and minus one if that failed. -/
def getline (e : Evaluator) (source : Source) (name : Option Expr) (target : Option Expr) :
    Run Value := do
  let keep (cs : List Char) : Run Unit :=
    match target with
    | none => setRecord cs
    | some x => e.store x (Value.ofInput cs)
  match source, name with
  | .input, _ | _, none =>
    match ← nextRecord e fileLimit with
    | none => return .number 0
    | some cs =>
      count true
      keep cs
      return .number 1
  | source, some x =>
    match ← readFrom e source (← e.text x) with
    | none => return .number (-1)
    | some none => return .number 0
    | some (some cs) =>
      if source = .command then count false
      keep cs
      return .number 1

/-! ### Functions that are always there -/

/-- The pieces of a replacement: a character, or the match itself. -/
def replacementOf : List Char → List (Option Char)
  | '\\' :: '&' :: rest => some '&' :: replacementOf rest
  | '\\' :: '\\' :: rest => some '\\' :: replacementOf rest
  | '&' :: rest => none :: replacementOf rest
  | c :: rest => some c :: replacementOf rest
  | [] => []

/-- A text with matches replaced, and how many there were. `previous` is where the last match ended,
and `fuel` bounds the number of places. -/
def replaceAll (r : Regex) (replacement : List (Option Char)) (all : Bool) (text : Array Char) :
    Nat → Option Nat → Nat → List Char × Nat
  | 0, _, place => ((text.extract place text.size).toList, 0)
  | fuel + 1, previous, place =>
    match if text.size < place then none else r.search manner text place with
    | none => ((text.extract place text.size).toList, 0)
    | some m =>
      let before := (text.extract place m.start).toList
      let isEmpty := m.start = m.stop
      let one := if isEmpty then (text.extract m.stop (m.stop + 1)).toList else []
      let next := if isEmpty then m.stop + 1 else m.stop
      if isEmpty && previous = some m.start then
        let (rest, n) := replaceAll r replacement all text fuel none next
        (before ++ one ++ rest, n)
      else
        let found := (text.extract m.start m.stop).toList
        let new := replacement.flatMap fun piece => piece.elim found fun c => [c]
        let (rest, n) :=
          if all then replaceAll r replacement all text fuel (some m.stop) next
          else ((text.extract next text.size).toList, 0)
        (before ++ new ++ one ++ rest, n + 1)

/-- Replaces matches in a variable, a field or an item. -/
def substitute (e : Evaluator) (all : Bool) (xs : List Expr) : Run Value := do
  match xs with
  | pattern :: replacement :: rest =>
    let target := rest.headD (.field (.number "0"))
    let r ← regexOf (← e.pattern pattern)
    let new ← e.text replacement
    let text := (← e.text target).toList.toArray
    let (cs, n) := replaceAll r (replacementOf new.toList) all text (2 * text.size + 3) none 0
    if 0 < n then e.store target (.text (String.ofList cs))
    return .number (Float.ofNat n)
  | _ => return .unset

/-- The part of a text from a place on, of a length. -/
def part (cs : List Char) (start : Float) (length : Option Float) : List Char :=
  let round (x : Float) : Int := (wholePart (x + 0.5).floor).getD 0
  let first := round start
  let behind : Int :=
    match length with
    | none => cs.length + 1
    | some n => if n.isNaN then 0 else first + round n
  let first' : Int := if first < 1 then 1 else first
  (cs.drop (first' - 1).toNat).take (behind - first').toNat

/-- The place of a text in another, counted from one; zero if it is not there. -/
def placeOf (part : List Char) : Nat → List Char → Nat
  | n, cs =>
    if part.isPrefixOf cs then n + 1
    else
      match cs with
      | [] => 0
      | _ :: rest => placeOf part (n + 1) rest

/-- Splits a text into an array. -/
def splitInto (e : Evaluator) (xs : List Expr) : Run Value := do
  match xs with
  | text :: .var name :: rest =>
    let cs := (← e.text text).toList
    let pieces ←
      match rest with
      | .regex s :: _ =>
        let r ← regexOf s
        let array := cs.toArray
        pure (if cs.isEmpty then [] else piecesBetween r array (array.size + 1) 0)
      | x :: _ => separated (← e.text x) false cs
      | [] => separated (← setting "FS") false cs
    let n ← arrayOf name
    setItems n (pieces.mapIdx fun i piece => (toString (i + 1), Value.ofInput piece))
    return .number (Float.ofNat pieces.length)
  | _ => return .unset

/-- Fills a format. -/
def formatted (e : Evaluator) (xs : List Expr) : Run String := do
  match xs with
  | [] => return ""
  | x :: rest =>
    let format ← e.text x
    let values ← rest.mapM e.value
    let conversion ← conversion
    let f := fillUpTo (Value.toText conversion) (format.length + 1) format.toList ⟨[], values, none⟩
    match f.fault with
    | some fault =>
      act (e.given.print (String.ofList f.pieces.reverse.flatten))
      throw (.fault (fault ++ " passed to printf(\"" ++ format ++ "\")"))
    | none => return String.ofList f.pieces.reverse.flatten

/-- The value of a function that is always there. -/
def builtin (e : Evaluator) (name : String) (xs : List Expr) : Run Value := do
  let first : Run String :=
    match xs with
    | x :: _ => e.text x
    | [] => return String.ofList (← get).record
  let numeric (f : Float → Float) : Run Value := do
    match xs with
    | x :: _ => return .number (f (← e.number x))
    | [] => return .number (f 0)
  match name, xs with
  | "length", [.var a] =>
    match ← cell? a with
    | some (.array n) => return .number (Float.ofNat (← items n).length)
    | _ => return .number (Float.ofNat (← first).length)
  | "length", _ => return .number (Float.ofNat (← first).length)
  | "substr", [x, start] =>
    return .text (String.ofList (part (← e.text x).toList (← e.number start) none))
  | "substr", [x, start, n] =>
    return .text (String.ofList (part (← e.text x).toList (← e.number start) (some (← e.number n))))
  | "index", [x, y] =>
    return .number (Float.ofNat (placeOf (← e.text y).toList 0 (← e.text x).toList))
  | "split", xs => splitInto e xs
  | "sub", xs => substitute e false xs
  | "gsub", xs => substitute e true xs
  | "match", [x, p] =>
    let text := (← e.text x).toList.toArray
    let r ← regexOf (← e.pattern p)
    let (start, length) : Int × Int :=
      match r.search manner text 0 with
      | some m => (m.start + 1, (m.stop : Int) - m.start)
      | none => (0, -1)
    assign "RSTART" (.number (Float.ofInt start))
    assign "RLENGTH" (.number (Float.ofInt length))
    return .number (Float.ofInt start)
  | "sprintf", xs => return .text (← formatted e xs)
  | "sin", _ => numeric Float.sin
  | "cos", _ => numeric Float.cos
  | "atan2", [y, x] => return .number (Float.atan2 (← e.number y) (← e.number x))
  | "exp", _ => numeric Float.exp
  | "log", _ => numeric Float.log
  | "sqrt", _ => numeric Float.sqrt
  | "int", _ => numeric truncated
  | "rand", _ =>
    let seed := ((← get).seed * 1103515245 + 12345) % 0x80000000
    modify fun s => { s with seed := seed }
    return .number (Float.ofNat seed / 2147483648.0)
  | "srand", xs =>
    let s ← get
    let new ←
      match xs with
      | x :: _ => e.number x
      | [] => pure 0
    set { s with seed := ((wholePart new).getD 0).natAbs, seedBefore := new }
    return .number s.seedBefore
  | "tolower", _ => return .text (String.ofList ((← first).toList.map Char.toLower))
  | "toupper", _ => return .text (String.ofList ((← first).toList.map Char.toUpper))
  | "system", x :: _ =>
    return .number (Float.ofNat (← runShell e (← e.text x) e.given.descriptors))
  | "close", x :: _ => return .number (Float.ofInt (← close e (← e.text x)))
  | "fflush", _ => return .number 0
  | _, _ => return .unset

/-! ### Functions of the script -/

/-- What an argument comes to for a function: an array is passed as it is. -/
def argument (e : Evaluator) (x : Expr) : Run Cell := do
  match x with
  | .var name =>
    match ← cell? name with
    | some (.array n) => return .array n
    | some (.open n) => return .open n
    | some (.value .unset) | none =>
      if name = "NF" then return .value (← e.value x)
      let n ← newArray
      setCell name (.open n)
      return .open n
    | some (.value v) => return .value v
  | x => return .value (← e.value x)

/-- Calls a function. -/
def call (e : Evaluator) (name : String) (xs : List Expr) : Run Value := do
  match e.functions.find? fun f => f.name = name with
  | none => throw (.refusal ("line 2: function " ++ name ++ " never defined"))
  | some f =>
    let cells ← xs.mapM (argument e)
    let before := (← get).locals
    let own := f.parameters.mapIdx fun i p => (p, cells.getD i (.value .unset))
    modify fun s => { s with locals := own }
    let restore : Run Unit := modify fun s => { s with locals := before }
    try
      e.run f.body
      restore
      return .unset
    catch jump =>
      restore
      match jump with
      | .back v => return v
      | jump => throw jump

/-! ### Expressions and statements -/

/-- The value of an expression. -/
def evaluate (e : Evaluator) : Expr → Run Value
  | .number s => return .number (((numberAt s.toList).map Prod.fst).getD 0)
  | .text s => return .text s
  | .regex s => do
    let r ← regexOf s
    return .ofTruth (r.search manner (← get).record.toArray 0).isSome
  | .var name => variableValue name
  | .field x => do field (← e.fieldNumber x)
  | .item name xs => do
    let i ← e.index xs
    item (← arrayOf name) i
  | .assign target operator x => do
    let v ←
      match operator with
      | none => e.value x
      | some o =>
        let new ← e.number x
        pure (.number (calculate o (← e.number target) new))
    e.store target v
    return v
  | .step target up after => do
    let old ← e.number target
    let new := if up then old + 1 else old - 1
    e.store target (.number new)
    return .number (if after then old else new)
  | .cond test a b => do if (← e.value test).isTrue then e.value a else e.value b
  | .and a b => do
    if (← e.value a).isTrue then return .ofTruth (← e.value b).isTrue else return .ofTruth false
  | .or a b => do
    if (← e.value a).isTrue then return .ofTruth true else return .ofTruth (← e.value b).isTrue
  | .not x => return .ofTruth !(← e.value x).isTrue
  | .neg x => return .number (-(← e.number x))
  | .plus x => return .number (← e.number x)
  | .calc o a b => do
    let x ← e.number a
    let y ← e.number b
    return .number (calculate o x y)
  | .compare c a b => do
    let x ← e.value a
    let y ← e.value b
    return .ofTruth (holds c (x.order (← conversion) y))
  | .matches x p => do
    let text ← e.text x
    let r ← regexOf (← e.pattern p)
    return .ofTruth (r.search manner text.toList.toArray 0).isSome
  | .has xs name => do
    let i ← e.index xs
    return .ofTruth ((← items (← arrayOf name)).lookup i).isSome
  | .concat a b => do
    let x ← e.text a
    return .text (x ++ (← e.text b))
  | .call name xs => call e name xs
  | .builtin name xs => builtin e name xs
  | .getline source name target => getline e source name target
  | .group x => e.value x

/-- Does the body of a loop once, and says whether the loop goes on. -/
def turn (body : Run Unit) : Run Bool := do
  try
    body
    return true
  catch jump =>
    match jump with
    | .leave => return false
    | .again => return true
    | jump => throw jump

/-- The turns of a loop; `fuel` bounds their number. -/
def turns (test : Run Bool) (body : Run Unit) : Nat → Run Unit
  | 0 => return
  | fuel + 1 => do
    if ← test then
      if ← turn body then turns test body fuel

/-- The most turns of a loop. -/
def turnLimit : Nat := 10000000

/-- Does what a statement says. -/
def execute (e : Evaluator) : Stmt → Run Unit
  | .skip => return
  | .print xs sink => do
    let ofmt ← setting "OFMT"
    let texts ← xs.mapM fun x => return (← e.value x).toText ofmt
    let text ← if xs.isEmpty then pure (String.ofList (← get).record)
      else pure ((← setting "OFS").intercalate texts)
    emit e sink (text ++ (← setting "ORS"))
  | .format xs sink => do emit e sink (← formatted e xs)
  | .expr x => do
    let _ ← e.value x
  | .cond test a b => do if (← e.value test).isTrue then e.run a else e.run b
  | .while test body => turns (return (← e.value test).isTrue) (e.run body) turnLimit
  | .until body test => do
    if ← turn (e.run body) then
      turns (return (← e.value test).isTrue) (e.run body) turnLimit
  | .for start test step body => do
    e.run start
    let again : Run Unit := do
      try
        e.run body
      catch jump =>
        match jump with
        | .again => pure ()
        | jump => throw jump
      e.run step
    turns (do
      match test with
      | none => return true
      | some x => return (← e.value x).isTrue) again turnLimit
  | .forIn name array body => do
    let n ← arrayOf array
    let mut goes := true
    for (index, _) in ← items n do
      if goes then
        assign name (Value.text index)
        goes ← turn (e.run body)
  | .seq a b => do
    e.run a
    e.run b
  | .next => throw .next
  | .nextFile => throw .nextFile
  | .exit status => do
    match status with
    | some x =>
      let n := (wholePart (← e.number x)).getD 0
      modify fun s => { s with status := (n % 256).toNat }
    | none => pure ()
    throw .exit
  | .return value => do
    match value with
    | some x => throw (.back (← e.value x))
    | none => throw (.back .unset)
  | .break => throw .leave
  | .continue => throw .again
  | .delete name index => do
    let n ← arrayOf name
    match index with
    | none => setItems n []
    | some xs =>
      let i ← e.index xs
      setItems n ((← items n).filter fun entry => entry.1 ≠ i)

/-- What expressions and statements are worth at a depth. -/
def upTo (functions : List Function) (library : Library) (given : Invocation) : Nat → Evaluator
  | 0 =>
    ⟨fun _ => throw (.fault "function call nesting too deep"),
      fun _ => throw (.fault "function call nesting too deep"), functions, library, given⟩
  | n + 1 =>
    let e := upTo functions library given n
    ⟨evaluate e, execute e, functions, library, given⟩

/-- How deep expressions and statements may be nested. -/
def depth : Nat := 20000

/-! ### Rules -/

/-- Whether the rule of a number fits the record. -/
def fits (e : Evaluator) (number : Nat) (pattern : Pattern) : Run Bool := do
  match pattern with
  | .begin | .end => return false
  | .always => return true
  | .test x => return (← e.value x).isTrue
  | .range first last =>
    let began := (← get).ranges.contains number
    if !began && !(← e.value first).isTrue then return false
    let ended := (← e.value last).isTrue
    modify fun s =>
      let others := s.ranges.filter (· ≠ number)
      { s with ranges := if ended then others else number :: others }
    return true

/-- Does the actions of the rules that fit the record. -/
def applyRules (e : Evaluator) (rules : List Rule) : Run Unit := do
  for (number, r) in rules.mapIdx fun i r => (i, r) do
    if ← fits e number r.pattern then e.run (r.action.getD (.print [] none))

/-- Does the actions for all records; `fuel` bounds their number. -/
def records (e : Evaluator) (rules : List Rule) : Nat → Run Unit
  | 0 => return
  | fuel + 1 => do
    match ← nextRecord e fileLimit with
    | none => return
    | some record =>
      count true
      setRecord record
      try
        applyRules e rules
      catch jump =>
        match jump with
        | .next => pure ()
        | .nextFile => modify fun s => { s with current := some [] }
        | jump => throw jump
      records e rules fuel

/-- Does something, and says whether it went to its end. -/
def unlessEnded (action : Run Unit) : Run Bool := do
  try
    action
    return true
  catch jump =>
    match jump with
    | .exit => return false
    | jump => throw jump

/-- Runs a script. -/
def script (e : Evaluator) (s : Script) : Run Unit := do
  let actions (isMeant : Pattern → Bool) : Run Unit := do
    for r in s.rules do
      if isMeant r.pattern then
        match r.action with
        | some a => e.run a
        | none => pure ()
  let isBegin : Pattern → Bool
    | .begin => true
    | _ => false
  let isEnd : Pattern → Bool
    | .end => true
    | _ => false
  let goes ← unlessEnded (actions isBegin)
  if goes && s.rules.any fun r => !isBegin r.pattern then
    let _ ← unlessEnded (records e s.rules turnLimit)
  let _ ← unlessEnded (actions isEnd)

/-- Runs the commands that still wait for the end of their input. -/
def closeAll (e : Evaluator) : Run Unit := do
  for (command, _) in (← get).piped do
    let _ ← close e command

end Evaluator

end WidgetForge.Records
