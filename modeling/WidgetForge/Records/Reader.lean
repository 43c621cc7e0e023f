import WidgetForge.Records.Script
import WidgetForge.Records.Token

/-!
# Reading scripts on records

Expressions are read by the strength of their operators. Where a sign could belong to what stands
around an expression, as the arrow behind printed values does, the reader is told not to take it.
-/

namespace WidgetForge.Records

/-- What signs an expression may not take. -/
structure Bounds where
  /-- It may not take a greater sign. -/
  noGreater : Bool
  /-- It may not take the word `in`. -/
  noIn : Bool
  deriving DecidableEq

/-- All signs may be taken. -/
def Bounds.none : Bounds := ⟨false, false⟩

/-- A token that does not fit: its line, or nothing at the end of the script, and what was missing.
-/
structure Misfit where
  /-- The token with its line. -/
  token : Option Placed
  /-- What was missing. -/
  missing : Option String

/-- Reads tokens. -/
abbrev Parse := StateT (List Placed) (Except Misfit)

namespace Parse

/-- The next token, which stays. -/
def peek : Parse (Option Token) := return (← get).head?.map Prod.fst

/-- The token behind the next one. -/
def peekSecond : Parse (Option Token) := return ((← get).drop 1).head?.map Prod.fst

/-- Passes over the next token. -/
def skip : Parse Unit := modify fun ts => ts.drop 1

/-- Complains of the next token. -/
def fail {α : Type} : Parse α := do throw ⟨(← get).head?, none⟩

/-- Whether the next token is a sign. -/
def isSign (s : String) : Parse Bool := return (← peek) = some (.sign s)

/-- Takes a sign. -/
def expect (s : String) : Parse Unit := do
  if ← isSign s then skip else throw ⟨(← get).head?, some s⟩

/-- Passes over ends of lines. -/
def skipLines : Parse Unit := modify fun ts => ts.dropWhile fun t => t.1 = .newline

/-- Passes over ends of lines and semicolons. -/
def skipEnds : Parse Unit :=
  modify fun ts => ts.dropWhile fun t => t.1 = .newline || t.1 = .sign ";"

/-- Reads as one reader does, or as another if that fails. -/
def orElse {α : Type} (a b : Parse α) : Parse α := fun ts =>
  match a ts with
  | .ok r => .ok r
  | .error _ => b ts

end Parse

open Parse

/-- Whether an expression can be given a value. -/
def Expr.isTarget : Expr → Bool
  | .var _ | .field _ | .item _ _ => true
  | _ => false

/-- The operators of assignments. -/
def assignments : List (String × Option Operator) :=
  [("=", none), ("+=", some .add), ("-=", some .sub), ("*=", some .mul), ("/=", some .div),
    ("%=", some .rem), ("^=", some .pow)]

/-- The comparisons. -/
def comparisons : List (String × Comparison) :=
  [("<", .lt), ("<=", .le), ("==", .eq), ("!=", .ne), (">=", .ge), (">", .gt)]

/-- Reads expressions, each in its own way; these are the ways that call each other. -/
structure Ways where
  /-- An expression. -/
  expr : Bounds → Parse Expr
  /-- A value without operators around it. -/
  primary : Bounds → Parse Expr
  /-- A product and what binds as strongly. -/
  power : Bounds → Parse Expr
  /-- A text behind another, and what binds more strongly. -/
  concat : Bounds → Parse Expr

/-- Reads expressions with commas between them; `fuel` bounds their number. -/
def listOf (item : Parse Expr) : Nat → Parse (List Expr)
  | 0 => fail
  | fuel + 1 => do
    let e ← item
    if ← isSign "," then
      skip
      skipLines
      return e :: (← listOf item fuel)
    else return [e]

/-- The most items of a list. -/
def listLimit : Nat := 10000

/-- Reads arguments in parentheses. -/
def argumentsOf (w : Ways) : Parse (List Expr) := do
  expect "("
  skipLines
  if ← isSign ")" then
    skip
    return []
  let es ← listOf (w.expr .none) listLimit
  skipLines
  expect ")"
  return es

/-- Reads operators of one strength, from left to right; `fuel` bounds their number. -/
def leftward (operand : Parse Expr) (operator : Token → Option (Expr → Expr → Expr)) :
    Nat → Expr → Parse Expr
  | 0, e => return e
  | fuel + 1, e => do
    match (← peek).bind operator with
    | none => return e
    | some f =>
      skip
      skipLines
      leftward operand operator fuel (f e (← operand))

/-- Reads where an item, a variable or a field is. -/
def targetOf (w : Ways) : Parse Expr := do
  let e ← w.primary .none
  if e.isTarget then return e else fail

/-- Reads a target, if there is one. -/
def optionalTarget (w : Ways) : Parse (Option Expr) := do
  match ← peek with
  | some (.name _) | some (.sign "$") => return some (← targetOf w)
  | _ => return none

/-- Reads a value without operators around it. -/
def primaryOf (w : Ways) (b : Bounds) : Parse Expr := do
  let t ← peek
  match t with
  | some (.number s) =>
    skip
    return .number s
  | some (.text s) =>
    skip
    return .text s
  | some (.regex s) =>
    skip
    return .regex s
  | some (.name s) =>
    skip
    if ← isSign "[" then
      skip
      let index ← listOf (w.expr .none) listLimit
      expect "]"
      return .item s index
    else return .var s
  | some (.function s) =>
    skip
    return .call s (← argumentsOf w)
  | some (.builtin s) =>
    skip
    if ← isSign "(" then return .builtin s (← argumentsOf w)
    else if s = "length" then return .builtin s []
    else fail
  | some (.word "getline") =>
    skip
    let target ← optionalTarget w
    if ← isSign "<" then
      skip
      return .getline .file (some (← w.primary b)) target
    else return .getline .input none target
  | some (.sign "$") =>
    skip
    match ← peek with
    | some (.sign s) =>
      if s = "++" || s = "--" then
        skip
        return .field (.step (← targetOf w) (s = "++") false)
      else if s = "-" then
        skip
        return .field (.neg (← w.primary b))
      else return .field (← w.primary b)
    | _ => return .field (← w.primary b)
  | some (.sign "(") =>
    skip
    skipLines
    let es ← listOf (w.expr .none) listLimit
    skipLines
    expect ")"
    match es with
    | [e] => return .group e
    | es =>
      match ← peek, ← peekSecond with
      | some (.word "in"), some (.name s) =>
        skip
        skip
        return .has es s
      | _, _ => fail
  | some (.sign s) =>
    if s = "++" || s = "--" then
      skip
      return .step (← targetOf w) (s = "++") false
    else fail
  | _ => fail

/-- Reads a value and the steps behind it. -/
def postfixOf (w : Ways) (b : Bounds) : Parse Expr := do
  let e ← w.primary b
  match ← peek with
  | some (.sign s) =>
    if e.isTarget && (s = "++" || s = "--") then
      skip
      return .step e (s = "++") true
    else return e
  | _ => return e

/-- Reads powers and signs before them. -/
def powerOf (w : Ways) (b : Bounds) : Parse Expr := do
  match ← peek with
  | some (.sign "!") =>
    skip
    return .not (← w.power b)
  | some (.sign "-") =>
    skip
    return .neg (← w.power b)
  | some (.sign "+") =>
    skip
    return .plus (← w.power b)
  | _ =>
    let e ← postfixOf w b
    if ← isSign "^" then
      skip
      return .calc .pow e (← w.power b)
    else return e

/-- Reads sums. -/
def sumOf (w : Ways) (b : Bounds) : Parse Expr := do
  let product : Parse Expr := do
    let operator : Token → Option (Expr → Expr → Expr)
      | .sign "*" => some (.calc .mul)
      | .sign "/" => some (.calc .div)
      | .sign "%" => some (.calc .rem)
      | _ => none
    leftward (w.power b) operator listLimit (← w.power b)
  let operator : Token → Option (Expr → Expr → Expr)
    | .sign "+" => some (.calc .add)
    | .sign "-" => some (.calc .sub)
    | _ => none
  leftward product operator listLimit (← product)

/-- Whether a token begins a value that can stand behind another. -/
def beginsValue : Token → Bool
  | .number _ | .text _ | .regex _ | .function _ | .name _ | .builtin _ => true
  | .sign s => ["$", "(", "++", "--"].contains s
  | _ => false

/-- Reads texts behind each other; `fuel` bounds their number. -/
def concatFrom (w : Ways) (b : Bounds) : Nat → Expr → Parse Expr
  | 0, e => return e
  | fuel + 1, e => do
    match ← peek with
    | some t => if beginsValue t then concatFrom w b fuel (.concat e (← sumOf w b)) else return e
    | none => return e

/-- Reads records from a command, which stands in front; `fuel` bounds how many. -/
def pipedFrom (w : Ways) : Nat → Expr → Parse Expr
  | 0, e => return e
  | fuel + 1, e => do
    match ← peek, ← peekSecond with
    | some (.sign "|"), some (.word "getline") =>
      skip
      skip
      let target ← optionalTarget w
      pipedFrom w fuel (.getline .command (some e) target)
    | _, _ => return e

/-- Reads texts behind each other, and records read from a command. -/
def concatOf (w : Ways) (b : Bounds) : Parse Expr := do
  pipedFrom w listLimit (← concatFrom w b listLimit (← sumOf w b))

/-- Reads comparisons. -/
def comparisonOf (w : Ways) (b : Bounds) : Parse Expr := do
  let e ← w.concat b
  match ← peek with
  | some (.sign s) =>
    match comparisons.lookup s with
    | some c =>
      if s = ">" && b.noGreater then return e
      else
        skip
        return .compare c e (← w.concat b)
    | none => return e
  | _ => return e

/-- Reads matches. -/
def matchOf (w : Ways) (b : Bounds) : Parse Expr := do
  let operator : Token → Option (Expr → Expr → Expr)
    | .sign "~" => some .matches
    | .sign "!~" => some fun a p => .not (.matches a p)
    | _ => none
  leftward (comparisonOf w b) operator listLimit (← comparisonOf w b)

/-- Reads questions whether an array has an item; `fuel` bounds their number. -/
def membershipFrom : Nat → Expr → Parse Expr
  | 0, e => return e
  | fuel + 1, e => do
    match ← peek, ← peekSecond with
    | some (.word "in"), some (.name s) =>
      skip
      skip
      membershipFrom fuel (.has [e] s)
    | _, _ => return e

/-- Reads conditions with `and` and `or` between them. -/
def conditionOf (w : Ways) (b : Bounds) : Parse Expr := do
  let membership : Parse Expr := do
    let e ← matchOf w b
    if b.noIn then return e else membershipFrom listLimit e
  let both : Parse Expr := do
    let operator : Token → Option (Expr → Expr → Expr)
      | .sign "&&" => some .and
      | _ => none
    leftward membership operator listLimit (← membership)
  let operator : Token → Option (Expr → Expr → Expr)
    | .sign "||" => some .or
    | _ => none
  leftward both operator listLimit (← both)

/-- Gives back the target of a condition that ends with one: what stands before it takes the value
of the assignment behind it. -/
def assigned (operator : Option Operator) (value : Expr) : Expr → Option Expr
  | .not e => (assigned operator value e).map .not
  | .neg e => (assigned operator value e).map .neg
  | .and a b => (assigned operator value b).map (.and a)
  | .or a b => (assigned operator value b).map (.or a)
  | .compare c a b => (assigned operator value b).map (.compare c a)
  | .matches a b => (assigned operator value b).map (.matches a)
  | e => if e.isTarget then some (.assign e operator value) else none

/-- Reads an expression. -/
def exprOf (w : Ways) (b : Bounds) : Parse Expr := do
  let e ← conditionOf w b
  match ← peek with
  | some (.sign "?") =>
    skip
    skipLines
    let x ← w.expr b
    skipLines
    expect ":"
    skipLines
    return .cond e x (← w.expr b)
  | some (.sign s) =>
    match assignments.lookup s with
    | some operator =>
      skip
      skipLines
      let value ← w.expr b
      match assigned operator value e with
      | some e => return e
      | none => fail
    | none => return e
  | _ => return e

/-- The ways to read expressions that are no deeper than a bound. -/
def Ways.upTo : Nat → Ways
  | 0 => ⟨fun _ => fail, fun _ => fail, fun _ => fail, fun _ => fail⟩
  | n + 1 =>
    let w := Ways.upTo n
    ⟨exprOf w, primaryOf w, powerOf w, concatOf w⟩

/-- How deep expressions and statements may be nested. -/
def nesting : Nat := 400

/-- Reads an expression. -/
def expression (b : Bounds) : Parse Expr := (Ways.upTo nesting).expr b

/-! ### Statements -/

/-- Reads the end of a simple statement. -/
def endOfStatement : Parse Unit := do
  match ← peek with
  | some (.sign "\x7d") => return
  | some (.sign ";") => skip
  | some .newline => skip
  | none => return
  | _ => fail

/-- Whether a token ends the values that are printed. -/
def endsValues : Option Token → Bool
  | none | some .newline => true
  | some (.sign s) => [";", "\x7d", ">", ">>", "|"].contains s
  | _ => false

/-- Reads the values that are printed. -/
def printed : Parse (List Expr) := do
  if endsValues (← peek) then return []
  let inParentheses : Parse (List Expr) := do
    expect "("
    skipLines
    let es ← listOf (expression .none) listLimit
    skipLines
    expect ")"
    if endsValues (← peek) then return es else fail
  orElse inParentheses (listOf (expression ⟨true, false⟩) listLimit)

/-- Reads where printed values go. -/
def sinkOf : Parse (Option (Sink × Expr)) := do
  let kind : Option Sink :=
    match ← peek with
    | some (.sign ">") => some .file
    | some (.sign ">>") => some .append
    | some (.sign "|") => some .command
    | _ => none
  match kind with
  | none => return none
  | some kind =>
    skip
    return some (kind, ← expression ⟨true, false⟩)

/-- Reads a statement without parts. -/
def simple : Parse Stmt := do
  match ← peek with
  | some (.word "print") =>
    skip
    let es ← printed
    return .print es (← sinkOf)
  | some (.word "printf") =>
    skip
    let es ← printed
    if es.isEmpty then fail
    return .format es (← sinkOf)
  | some (.word "delete") =>
    skip
    match ← peek with
    | some (.name s) =>
      skip
      if ← isSign "[" then
        skip
        let index ← listOf (expression .none) listLimit
        expect "]"
        return .delete s (some index)
      else return .delete s none
    | _ => fail
  | _ => return .expr (← expression .none)

/-- Statements one after the other. -/
def sequence : List Stmt → Stmt
  | [] => .skip
  | [s] => s
  | s :: rest => .seq s (sequence rest)

/-- Reads an optional value and the end of the statement. -/
def optionalValue : Parse (Option Expr) := do
  match ← peek with
  | none | some .newline | some (.sign ";") | some (.sign "\x7d") =>
    endOfStatement
    return none
  | _ =>
    let e ← expression .none
    endOfStatement
    return some e

/-- Reads statements up to a closing brace; `fuel` bounds their number. -/
def blockOf (statement : Parse Stmt) : Nat → Parse (List Stmt)
  | 0 => fail
  | fuel + 1 => do
    skipEnds
    if (← get).isEmpty then throw ⟨none, some "\x7d"⟩
    if ← isSign "\x7d" then
      skip
      return []
    let s ← statement
    return s :: (← blockOf statement fuel)

/-- Reads the loop behind the word `for`. -/
def loopOf (statement : Parse Stmt) : Parse Stmt := do
  let each : Parse Stmt := do
    expect "("
    match ← get with
    | (.name x, _) :: (.word "in", _) :: (.name a, _) :: (.sign ")", _) :: rest =>
      set rest
      skipLines
      return .forIn x a (← statement)
    | _ => fail
  let counted : Parse Stmt := do
    expect "("
    let start ← if ← isSign ";" then pure .skip else simple
    expect ";"
    skipLines
    let test ← if ← isSign ";" then pure none else do pure (some (← expression .none))
    expect ";"
    skipLines
    let step ← if ← isSign ")" then pure .skip else simple
    expect ")"
    skipLines
    if ← isSign ";" then
      skip
      return .for start test step .skip
    else return .for start test step (← statement)
  match ← get with
  | _ :: (.name _, _) :: (.word "in", _) :: (.name _, _) :: (.sign ")", _) :: _ => each
  | _ => counted

/-- Reads a statement; `fuel` bounds the depth. -/
def statement : Nat → Parse Stmt
  | 0 => fail
  | fuel + 1 => do
    let inner : Parse Stmt := do
      skipLines
      statement fuel
    let condition : Parse Expr := do
      expect "("
      let e ← expression .none
      expect ")"
      return e
    match ← peek with
    | some (.sign "\x7b") =>
      skip
      return sequence (← blockOf (statement fuel) listLimit)
    | some (.sign ";") =>
      skip
      return .skip
    | some (.word "if") =>
      skip
      let test ← condition
      let a ← inner
      let before ← get
      skipEnds
      if (← peek) = some (.word "else") then
        skip
        return .cond test a (← inner)
      else
        set before
        return .cond test a .skip
    | some (.word "while") =>
      skip
      let test ← condition
      if ← isSign ";" then
        skip
        return .while test .skip
      else return .while test (← inner)
    | some (.word "do") =>
      skip
      let body ← inner
      skipEnds
      if (← peek) ≠ some (.word "while") then fail
      skip
      let test ← condition
      endOfStatement
      return .until body test
    | some (.word "for") =>
      skip
      loopOf inner
    | some (.word "next") =>
      skip
      endOfStatement
      return .next
    | some (.word "nextfile") =>
      skip
      endOfStatement
      return .nextFile
    | some (.word "break") =>
      skip
      endOfStatement
      return .break
    | some (.word "continue") =>
      skip
      endOfStatement
      return .continue
    | some (.word "exit") =>
      skip
      return .exit (← optionalValue)
    | some (.word "return") =>
      skip
      return .return (← optionalValue)
    | _ =>
      let s ← simple
      endOfStatement
      return s

/-! ### Rules -/

/-- Reads an action. -/
def action : Parse Stmt := do
  expect "\x7b"
  return sequence (← blockOf (statement nesting) listLimit)

/-- Reads the names of parameters; `fuel` bounds their number. -/
def parametersOf : Nat → Parse (List String)
  | 0 => fail
  | fuel + 1 => do
    skipLines
    match ← peek with
    | some (.sign ")") =>
      skip
      return []
    | some (.name s) =>
      skip
      if ← isSign "," then skip
      return s :: (← parametersOf fuel)
    | _ => fail

/-- Reads a function. -/
def functionOf : Parse Function := do
  let name ←
    match ← peek with
    | some (.function s) | some (.name s) =>
      skip
      pure s
    | _ => fail
  expect "("
  let parameters ← parametersOf listLimit
  skipLines
  return ⟨name, parameters, ← action⟩

/-- Reads a rule. -/
def rule : Parse Rule := do
  let pattern : Pattern ←
    match ← peek with
    | some (.sign "\x7b") => pure .always
    | some (.word "BEGIN") =>
      skip
      pure .begin
    | some (.word "END") =>
      skip
      pure .end
    | _ =>
      let e ← expression .none
      if ← isSign "," then
        skip
        skipLines
        pure (.range e (← expression .none))
      else pure (.test e)
  let braces ← isSign "\x7b"
  match pattern, braces with
  | _, true => return ⟨pattern, some (← action)⟩
  | .begin, false | .end, false => fail
  | _, false => return ⟨pattern, none⟩

/-- Reads rules and functions; `fuel` bounds their number. -/
def script : Nat → Script → Parse Script
  | 0, s => return s
  | fuel + 1, s => do
    skipEnds
    match ← peek with
    | none => return s
    | some (.word "function") =>
      skip
      let f ← functionOf
      script fuel { s with functions := s.functions ++ [f] }
    | _ =>
      let r ← rule
      match ← peek with
      | none | some .newline | some (.sign ";") => pure ()
      | _ => if r.action.isNone then fail
      script fuel { s with rules := s.rules ++ [r] }

/-- The text of a token. -/
def Token.shown : Token → String
  | .number s | .function s | .name s | .word s | .builtin s | .sign s => s
  | .text s => "\"" ++ s ++ "\""
  | .regex s => "/" ++ s ++ "/"
  | .newline => "end of line"

/-- Reads a script, or says what is wrong with it. -/
def read (text : List Char) : Except String Script :=
  match tokens text with
  | .error (line, fault) => .error ("line " ++ toString line ++ ": " ++ fault)
  | .ok ts =>
    match (script (ts.length + 1) ⟨[], []⟩).run ts with
    | .ok (s, _) => .ok s
    | .error ⟨none, some missing⟩ => .error ("line 2: missing " ++ missing ++ " near end of file")
    | .error ⟨none, none⟩ => .error "line 2: syntax error at or near end of file"
    | .error ⟨some (t, line), missing⟩ =>
      let place := "line " ++ toString line ++ ": "
      match missing with
      | some ")" => .error (place ++ "missing ) near " ++ t.shown)
      | _ => .error (place ++ "syntax error at or near " ++ t.shown)

end WidgetForge.Records
