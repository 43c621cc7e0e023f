import WidgetForge.Machine.Launch
import WidgetForge.Records.Script
import WidgetForge.Records.Value
import WidgetForge.Regex.Reader

/-!
# The state of a script on records

A run keeps variables and arrays, the current record with its fields, and the places that are read
from and written to. A function has variables of its own; an array that is given to it stays the
array of the caller.
-/

namespace WidgetForge.Records

open Machine Utility Text

/-- What a name stands for. -/
inductive Cell where
  /-- A value. -/
  | value (v : Value)
  /-- An array, by its number. -/
  | array (n : Nat)
  /-- Nothing yet: it becomes the array of a number once it is used as one. -/
  | open (n : Nat)

/-- What is left to be read from a file or a command. -/
structure Reading where
  /-- The name of the file, or the command. -/
  name : String
  /-- What is left. -/
  left : List Char

/-- The state of a run. -/
structure State where
  /-- The variables. -/
  globals : List (String × Cell)
  /-- The variables of the function that is running. -/
  locals : List (String × Cell)
  /-- The arrays, by their numbers. -/
  arrays : Array (List (String × Value))
  /-- The current record. -/
  record : List Char
  /-- Its fields. -/
  fields : List Value
  /-- What is left of the current file; nothing if none has been opened. -/
  current : Option (List Char)
  /-- The number of the next argument. -/
  next : Nat
  /-- Whether a file has been named among the arguments. -/
  named : Bool
  /-- The files and commands that are read from. -/
  readings : List Reading
  /-- The files that have been written to. -/
  written : List String
  /-- The commands that are written to, each with its input. -/
  piped : List (String × List Char)
  /-- The ranges that have begun, by the numbers of their rules. -/
  ranges : List Nat
  /-- The status that has been given. -/
  status : Nat
  /-- The seed of the random numbers. -/
  seed : Nat
  /-- The seed before that. -/
  seedBefore : Float

/-- How a statement ends early. -/
inductive Jump where
  /-- The next record is looked at. -/
  | next
  /-- The next file is looked at. -/
  | nextFile
  /-- The run ends. -/
  | exit
  /-- The function ends with a value. -/
  | back (v : Value)
  /-- The loop ends. -/
  | leave
  /-- The loop goes on with its next turn. -/
  | again
  /-- Something is wrong in the script. -/
  | fault (complaint : String)
  /-- Something that the script needs cannot be had. -/
  | refusal (complaint : String)

/-- What is done in a run. -/
abbrev Run := ExceptT Jump (StateT State Act)

namespace Run

/-- Does something on the machine. -/
def act {α : Type} (a : Act α) : Run α := liftM a

/-- A value under a name in the place of the old one. -/
def put {α : Type} (name : String) (v : α) : List (String × α) → List (String × α)
  | [] => [(name, v)]
  | (n, old) :: rest => if n = name then (n, v) :: rest else (n, old) :: put name v rest

/-! ### Variables -/

/-- What a name stands for. -/
def cell? (name : String) : Run (Option Cell) := do
  let s ← get
  match s.locals.lookup name with
  | some c => return some c
  | none => return s.globals.lookup name

/-- Lets a name stand for something. -/
def setCell (name : String) (c : Cell) : Run Unit := do
  let s ← get
  if (s.locals.lookup name).isSome then set { s with locals := put name c s.locals }
  else set { s with globals := put name c s.globals }

/-- The value of a variable that is like any other. -/
def plain (name : String) : Run Value := do
  match ← cell? name with
  | some (.value v) => return v
  | some (.array _) => throw (.fault ("type error: cannot use array " ++ name ++ " as a scalar"))
  | _ => return .unset

/-- The format for numbers that become texts. -/
def conversion : Run String := do
  match ((← get).globals.lookup "CONVFMT") with
  | some (.value v) => return v.toText "%.6g"
  | _ => return "%.6g"

/-- A value as a text. -/
def textOf (v : Value) : Run String := return v.toText (← conversion)

/-- A variable as a text. -/
def setting (name : String) : Run String := do
  match (← get).globals.lookup name with
  | some (.value v) => textOf v
  | _ => return ""

/-! ### Regular expressions -/

/-- The regular expression that a text writes. -/
def regexOf (text : String) : Run Regex := do
  let rec resolved : List Char → List Char
    | '\\' :: c :: rest =>
      if c = '/' || c = '"' then c :: resolved rest
      else
        match if ['n', 't', 'r', 'f', 'v', 'a'].contains c then controls.lookup c else none with
        | some n => octet n :: resolved rest
        | none => '\\' :: c :: resolved rest
    | c :: rest => c :: resolved rest
    | [] => []
  match Regex.read true true (resolved text.toList) with
  | .ok r => return r
  | .error e => throw (.fault ("regular expression compile failed (" ++ e.message ++ ")\n" ++ text))

/-- How texts are looked at. -/
def manner : Regex.Manner := ⟨false, false⟩

/-! ### Records and fields -/

/-- The pieces of a text between matches that are not empty; `fuel` bounds their number. -/
def piecesBetween (r : Regex) (text : Array Char) : Nat → Nat → List (List Char)
  | 0, place => [(text.extract place text.size).toList]
  | fuel + 1, place =>
    let rec firstMatch : Nat → Nat → Option Regex.Match
      | 0, _ => none
      | k + 1, start =>
        match r.search manner text start with
        | none => none
        | some m => if m.start < m.stop then some m else firstMatch k (m.start + 1)
    match firstMatch (text.size + 1) place with
    | none => [(text.extract place text.size).toList]
    | some m => (text.extract place m.start).toList :: piecesBetween r text fuel m.stop

/-- The words of a text between white space. -/
def wordsOf (cs : List Char) : List (List Char) :=
  (cs.foldr (fun c (acc : List (List Char)) =>
    if isSpace c then [] :: acc
    else
      match acc with
      | [] => [[c]]
      | w :: ws => (c :: w) :: ws) []).filter fun w => !w.isEmpty

/-- The pieces of a text between separators. -/
def separated (separator : String) (lines : Bool) (cs : List Char) : Run (List (List Char)) := do
  if cs.isEmpty then return []
  match separator.toList with
  | [' '] => return wordsOf cs
  | [] => return cs.map fun c => [c]
  | [c] =>
    return if lines then (split '\n' cs).flatMap (split c) else split c cs
  | _ =>
    let r ← regexOf separator
    let r := if lines then Regex.alt r (.one ⟨false, [.range '\n' '\n']⟩) else r
    let text := cs.toArray
    return piecesBetween r text (text.size + 1) 0

/-- Makes a text the record and cuts it into fields. -/
def setRecord (cs : List Char) : Run Unit := do
  let fields ← separated (← setting "FS") ((← setting "RS").isEmpty) cs
  modify fun s => { s with record := cs, fields := fields.map Value.ofInput }

/-- Makes a record of the fields. -/
def rebuild : Run Unit := do
  let s ← get
  let texts ← s.fields.mapM textOf
  let between ← setting "OFS"
  set { s with record := (between.intercalate texts).toList }

/-- A field; the field zero is the record. -/
def field (n : Nat) : Run Value := do
  let s ← get
  if n = 0 then return Value.ofInput s.record else return s.fields.getD (n - 1) .unset

/-- Gives a value to a field. -/
def setField (n : Nat) (v : Value) : Run Unit := do
  if n = 0 then setRecord (← textOf v).toList
  else
    modify fun s =>
      let missing := List.replicate (n - s.fields.length) (Value.text "")
      { s with fields := (s.fields ++ missing).set (n - 1) v }
    rebuild

/-- The value of a variable. -/
def variableValue (name : String) : Run Value := do
  if name = "NF" && ((← get).locals.lookup name).isNone then
    return .number (Float.ofNat (← get).fields.length)
  else plain name

/-- Gives a value to a variable. -/
def assign (name : String) (v : Value) : Run Unit := do
  if name = "NF" then
    let n := ((wholePart v.toNumber).getD 0).toNat
    modify fun s =>
      { s with fields := s.fields.take n ++ List.replicate (n - s.fields.length) (Value.text "") }
    rebuild
  else
    match ← cell? name with
    | some (.array _) => throw (.fault ("type error: cannot use array " ++ name ++ " as a scalar"))
    | _ => setCell name (.value v)

/-! ### Arrays -/

/-- The number of a new array. -/
def newArray : Run Nat := do
  let s ← get
  set { s with arrays := s.arrays.push [] }
  return s.arrays.size

/-- The number of the array of a name. -/
def arrayOf (name : String) : Run Nat := do
  match ← cell? name with
  | some (.array n) => return n
  | some (.open n) =>
    setCell name (.array n)
    return n
  | some (.value .unset) | none =>
    let n ← newArray
    setCell name (.array n)
    return n
  | some (.value _) => throw (.fault ("type error: cannot use " ++ name ++ " as an array"))

/-- The items of an array. -/
def items (n : Nat) : Run (List (String × Value)) := return (← get).arrays.getD n []

/-- Changes the items of an array. -/
def setItems (n : Nat) (all : List (String × Value)) : Run Unit :=
  modify fun s => { s with arrays := s.arrays.setIfInBounds n all }

/-- The value of an item, which is there from now on. -/
def item (n : Nat) (index : String) : Run Value := do
  match (← items n).lookup index with
  | some v => return v
  | none =>
    setItems n ((← items n) ++ [(index, .unset)])
    return .unset

/-- Gives a value to an item. -/
def setItem (n : Nat) (index : String) (v : Value) : Run Unit := do
  setItems n (put index v (← items n))

end Run

end WidgetForge.Records
