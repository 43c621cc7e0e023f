/-!
# Grammars of command lines

A grammar lists the switches of a command: some stand alone, some take a value, and some stop the
program at once. A switch has a name, given behind two hyphens, and perhaps a letter, given behind
one. A value follows its switch as the next word or, behind an equals sign, in the same word; behind
a letter it may follow without a sign. Words that are no switches are operands or the name of a
command that the rest of the line belongs to. Behind `--` there are only operands.

Words are read in order, and the first mistake ends the reading.
-/

namespace WidgetForge.CommandLine

/-- What a switch does. -/
inductive Role where
  /-- It is there or not. -/
  | flag
  /-- It takes a value that passes a test. With `signed`, the value may be a number with a minus
  sign. -/
  | value (accepts : String → Bool) (signed : Bool)
  /-- It asks for the version. -/
  | version
  /-- It asks for help. -/
  | help

/-- A switch. -/
structure Switch where
  /-- Its name. -/
  name : String
  /-- Its letter, if it has one. -/
  letter : Option Char
  /-- What it does. -/
  role : Role

/-- A grammar. -/
structure Grammar where
  /-- The switches. -/
  switches : List Switch
  /-- The names of commands. -/
  commands : List String
  /-- Whether there may be operands. -/
  operands : Bool

/-- Why a program stops before it does anything. -/
inductive Stop where
  /-- Its version is to be shown. -/
  | version
  /-- Help is to be shown. -/
  | help
  /-- The command line makes no sense. -/
  | usage
  deriving DecidableEq

/-- What a command line gives. -/
structure Given where
  /-- The switches, with their values, last first. -/
  switches : List (String × String)
  /-- The operands, last first. -/
  operands : List String
  /-- The command, and the words that belong to it. -/
  command : Option (String × List String)

namespace Given

/-- What no words give. -/
def none : Given := ⟨[], [], .none⟩

/-- The value of a switch. -/
def value? (g : Given) (name : String) : Option String := g.switches.lookup name

/-- Whether a switch is there. -/
def has (g : Given) (name : String) : Bool := (g.value? name).isSome

/-- Adds a switch. It may be there only once. -/
def add (g : Given) (name value : String) : Except Stop Given :=
  if g.has name then .error .usage else .ok { g with switches := (name, value) :: g.switches }

end Given

/-- Takes the value of a switch. -/
def Switch.take (s : Switch) (g : Given) (value : String) : Except Stop Given :=
  match s.role with
  | .value accepts _ => if accepts value then g.add s.name value else .error .usage
  | _ => .error .usage

/-- Takes a switch without a value. -/
def Switch.alone (s : Switch) (g : Given) : Except Stop Given :=
  match s.role with
  | .flag => g.add s.name ""
  | .version => .error .version
  | .help => .error .help
  | .value _ _ => .error .usage

/-- Whether a switch takes a value. -/
def Switch.takesValue (s : Switch) : Bool :=
  match s.role with
  | .value _ _ => true
  | _ => false

/-- Whether the value of a switch may be a number with a minus sign. -/
def Switch.isSigned (s : Switch) : Bool :=
  match s.role with
  | .value _ signed => signed
  | _ => false

/-- The form of a word. -/
inductive Form where
  /-- Two hyphens alone. -/
  | rest
  /-- A name behind two hyphens, perhaps with a value. -/
  | long (name : String) (value : Option String)
  /-- Letters behind a hyphen. -/
  | short (letters : List Char)
  /-- Anything else. -/
  | other

/-- The form of a word. A hyphen alone is no switch. -/
def formOf (word : String) : Form :=
  match word.toList with
  | ['-', '-'] => .rest
  | '-' :: '-' :: cs =>
    let name := cs.takeWhile (· ≠ '=')
    match cs.drop name.length with
    | _ :: value => .long (String.ofList name) (some (String.ofList value))
    | [] => .long (String.ofList name) none
  | '-' :: c :: cs => .short (c :: cs)
  | _ => .other

/-- Whether characters are digits, perhaps with one point behind the first and one exponent. -/
def isNumber (cs : List Char) : Bool :=
  let whole := cs.dropWhile Char.isDigit
  let exponent : List Char → Bool
    | 'e' :: digits => !digits.isEmpty && digits.all Char.isDigit
    | [] => true
    | _ => false
  match whole with
  | '.' :: part => whole.length < cs.length && exponent (part.dropWhile Char.isDigit)
  | rest => exponent rest && rest.length < cs.length

/-- What has been read of a line: a switch that waits for its value, if there is one, and what the
line has given so far. -/
abbrev Progress := Option Switch × Given

/-- Takes letters behind a hyphen. A value may follow its letter, with an equals sign or without. -/
def takeLetters (switches : List Switch) (g : Given) : List Char → Except Stop Progress
  | [] => .ok (none, g)
  | c :: rest =>
    match switches.find? fun s => s.letter = some c with
    | none => .error .usage
    | some s =>
      if s.takesValue then
        match rest with
        | [] => .ok (some s, g)
        | d :: value =>
          (s.take g (String.ofList (if d = '=' then value else d :: value))).map (none, ·)
      else
        match s.alone g with
        | .error e => .error e
        | .ok g => takeLetters switches g rest

/-- Takes a name behind two hyphens. -/
def takeName (switches : List Switch) (g : Given) (name : String) (value : Option String) :
    Except Stop Progress :=
  match switches.find? fun s => s.name = name with
  | none => .error .usage
  | some s =>
    match value with
    | some value => (s.take g value).map (none, ·)
    | none => if s.takesValue then .ok (some s, g) else (s.alone g).map (none, ·)

/-- Reads the words behind `--`. -/
def readOperands (grammar : Grammar) (g : Given) (words : List String) : Except Stop Given :=
  if grammar.operands || words.isEmpty then
    .ok { g with operands := words.reverse ++ g.operands }
  else .error .usage

/-- Reads words; a switch may be waiting for its value. -/
def readWords (grammar : Grammar) : Progress → List String → Except Stop Given
  | (none, g), [] => .ok g
  | (some _, _), [] => .error .usage
  | (some s, g), word :: rest =>
    let value : Bool :=
      match formOf word with
      | .other => true
      | .short letters => s.isSigned && isNumber letters
      | _ => false
    if value then
      match s.take g word with
      | .error e => .error e
      | .ok g => readWords grammar (none, g) rest
    else .error .usage
  | (none, g), word :: rest =>
    if grammar.commands.contains word then .ok { g with command := some (word, rest) }
    else
      match formOf word with
      | .rest => readOperands grammar g rest
      | .long name value =>
        match takeName grammar.switches g name value with
        | .error e => .error e
        | .ok progress => readWords grammar progress rest
      | .short letters =>
        match takeLetters grammar.switches g letters with
        | .error e => .error e
        | .ok progress => readWords grammar progress rest
      | .other =>
        if grammar.operands then
          readWords grammar (none, { g with operands := word :: g.operands }) rest
        else .error .usage

/-- Reads a command line. -/
def Grammar.read (grammar : Grammar) (words : List String) : Except Stop Given :=
  readWords grammar (none, Given.none) words

end WidgetForge.CommandLine
