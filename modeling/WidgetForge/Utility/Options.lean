import WidgetForge.Machine.Invocation
import WidgetForge.Utility.Quoting

/-!
# The options of a program

Options are letters behind a dash or names behind two, and some take a value. Words that are no
options are operands; some programs look for options behind them too. Two dashes alone end the
options.

All the small programs by which an operator can be asked read their words in this way.
-/

namespace WidgetForge.Utility

open Machine

/-- The options that a program knows. -/
structure Options where
  /-- The letters that take no value. -/
  flags : String
  /-- The letters that take a value. -/
  valued : String
  /-- The names, each with the letter that it stands for. -/
  names : List (String × Char)
  /-- Whether options may stand behind operands. -/
  mixed : Bool

/-- The options and operands that a program is given. -/
structure Given where
  /-- The letters of the options in order, each with its value. -/
  options : List (Char × String)
  /-- The operands. -/
  operands : List String

namespace Given

/-- Whether an option is given. -/
def has (g : Given) (letter : Char) : Bool := g.options.any fun o => o.1 = letter

/-- The value of the last option of a letter. -/
def value? (g : Given) (letter : Char) : Option String := g.options.reverse.lookup letter

/-- The values of all options of a letter, in order. -/
def values (g : Given) (letter : Char) : List String :=
  g.options.filterMap fun o => if o.1 = letter then some o.2 else none

/-- The last of some letters that is given. -/
def last? (g : Given) (letters : List Char) : Option Char :=
  (g.options.reverse.find? fun o => letters.contains o.1).map Prod.fst

/-- The options and operands with one more option in front. -/
def withOption (letter : Char) (value : String) (g : Given) : Given :=
  { g with options := (letter, value) :: g.options }

/-- The options and operands with one more operand in front. -/
def withOperand (word : String) (g : Given) : Given := { g with operands := word :: g.operands }

end Given

namespace Options

/-- What the letters behind a dash come to: the options, and the letter that waits for its value in
the next word. -/
def cluster (o : Options) : List Char → Except String (List (Char × String) × Option Char)
  | [] => .ok ([], none)
  | c :: rest =>
    if o.flags.toList.contains c then
      (o.cluster rest).map fun (all, waiting) => ((c, "") :: all, waiting)
    else if o.valued.toList.contains c then
      if rest.isEmpty then .ok ([], some c) else .ok ([(c, String.ofList rest)], none)
    else .error ("invalid option -- '" ++ String.singleton c ++ "'")

/-- The letter of a name or of the start of one. -/
def letterOf (o : Options) (name : String) : Except String Char :=
  match o.names.lookup name with
  | some c => .ok c
  | none =>
    let found := o.names.filter fun n => name.toList.isPrefixOf n.1.toList
    match found with
    | [] => .error ("unrecognized option '--" ++ name ++ "'")
    | (_, c) :: rest =>
      if rest.all fun n => n.2 = c then .ok c
      else .error ("option '--" ++ name ++ "' is ambiguous; possibilities: " ++
        " ".intercalate (found.map fun n => "'--" ++ n.1 ++ "'"))

/-- What a name behind two dashes comes to, perhaps with a value behind an equals sign. -/
def named (o : Options) (cs : List Char) : Except String (List (Char × String) × Option Char) :=
  let name := cs.takeWhile (· ≠ '=')
  let shown := "option '--" ++ String.ofList name ++ "'"
  match o.letterOf (String.ofList name), cs.drop name.length with
  | .error e, _ => .error e
  | .ok c, [] => if o.valued.toList.contains c then .ok ([], some c) else .ok ([(c, "")], none)
  | .ok c, _ :: value =>
    if o.valued.toList.contains c then .ok ([(c, String.ofList value)], none)
    else .error (shown ++ " doesn't allow an argument")

/-- Reads words; `waiting` is the option that waits for its value, if one does, and its name. -/
def readFrom (o : Options) : Option (Char × String) → List String → Except String Given
  | none, [] => .ok ⟨[], []⟩
  | some (_, shown), [] => .error shown
  | some (c, _), w :: rest => (o.readFrom none rest).map (Given.withOption c w)
  | none, w :: rest =>
    match w.toList with
    | ['-', '-'] => .ok ⟨[], rest⟩
    | '-' :: '-' :: cs =>
      match o.named cs with
      | .error e => .error e
      | .ok (all, waiting) =>
        let shown := "option '" ++ w ++ "' requires an argument"
        (o.readFrom (waiting.map fun c => (c, shown)) rest).map fun g =>
          { g with options := all ++ g.options }
    | '-' :: c :: cs =>
      match o.cluster (c :: cs) with
      | .error e => .error e
      | .ok (all, waiting) =>
        let shown (c : Char) := "option requires an argument -- '" ++ String.singleton c ++ "'"
        (o.readFrom (waiting.map fun c => (c, shown c)) rest).map fun g =>
          { g with options := all ++ g.options }
    | _ => if o.mixed then (o.readFrom none rest).map (Given.withOperand w) else .ok ⟨[], w :: rest⟩

/-- The options and operands in some words, or a complaint. -/
def read (o : Options) (words : List String) : Except String Given := o.readFrom none words

end Options

/-- Complains of the words that a program is given. -/
def misused (p : Invocation) (status : Nat) (complaint : String) : Act Nat := do
  p.report complaint
  p.complain ("Try '" ++ p.name ++ " --help' for more information.\n")
  return status

/-- Reads the options of a program and goes on, or complains and ends with a status. -/
def withOptions (o : Options) (status : Nat) (p : Invocation) (next : Given → Act Nat) : Act Nat :=
  match o.read p.arguments with
  | .error complaint => misused p status complaint
  | .ok g => next g

/-- Complains of a file. -/
def reportFile (p : Invocation) (file : String) (e : Disk.OsError) : Act Unit :=
  p.report (Quoting.shown file ++ ": " ++ e.wording)

end WidgetForge.Utility
