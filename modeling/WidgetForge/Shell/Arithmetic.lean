import WidgetForge.Text.Hexadecimal

/-!
# Arithmetic

Expressions over words of 64 bits, with the operators of everyday programs. A name stands for the
number in its variable, and an assignment gives it another. What is not needed for the value, as the
other branch of a choice, is read but not evaluated.
-/

namespace WidgetForge.Shell.Arithmetic

open Text

/-- A token of an expression. -/
inductive Token where
  /-- A number. -/
  | number (n : Int64)
  /-- The name of a variable. -/
  | name (s : String)
  /-- An operator. -/
  | sign (s : String)
  /-- What has no meaning. -/
  | bad
  deriving DecidableEq

/-- Why an expression has no value. -/
inductive Fault where
  /-- Something else is expected where the reader is. -/
  | expecting (what : String)
  /-- A number is divided by zero. -/
  | division
  /-- The value of a variable is no number. -/
  | illegal (text : String)

/-! ### Numbers -/

/-- The word nearest to an integer. -/
def nearest (n : Int) : Int64 :=
  if n ≥ 0x8000000000000000 then Int64.maxValue
  else if n < -0x8000000000000000 then Int64.minValue
  else Int64.ofInt n

/-- The value of a digit of a base. -/
def digitOf (base : Nat) (c : Char) : Option Nat :=
  (Hexadecimal.value c).bind fun d => if d < base then some d else none

/-- The number that digits of a base write, and what stands behind them. -/
def digitsOf (base : Nat) (cs : List Char) : Nat × List Char :=
  let digits := cs.takeWhile fun c => (digitOf base c).isSome
  (digits.foldl (fun n c => n * base + (digitOf base c).getD 0) 0, cs.drop digits.length)

/-- The number at the front of a text that begins with a digit: after `0x` it has the base sixteen,
after another zero the base eight. -/
def numberAt : List Char → Nat × List Char
  | '0' :: x :: d :: rest =>
    if (x = 'x' || x = 'X') && (Hexadecimal.value d).isSome then digitsOf 16 (d :: rest)
    else digitsOf 8 ('0' :: x :: d :: rest)
  | '0' :: rest => digitsOf 8 ('0' :: rest)
  | cs => digitsOf 10 cs

/-- Whether a character is white space. -/
def isSpace (c : Char) : Bool := c = ' ' || ('\t' ≤ c && c ≤ '\r')

/-- The number that a text writes, with blanks around it and a sign before it if need be. -/
def readNumber (text : String) : Option Int64 :=
  let cs := text.toList.dropWhile isSpace
  let (negative, cs) : Bool × List Char :=
    match cs with
    | '-' :: rest => (true, rest)
    | '+' :: rest => (false, rest)
    | cs => (false, cs)
  match cs with
  | [] => none
  | c :: _ =>
    if !c.isDigit then none
    else
      let (n, rest) := numberAt cs
      if rest.all isSpace then some (nearest (if negative then -(n : Int) else n)) else none

/-! ### Tokens -/

/-- The operators, the longer ones first. -/
def signs : List String :=
  ["<<=", ">>=", "<<", ">>", "<=", ">=", "==", "!=", "&&", "||", "+=", "-=", "*=", "/=", "%=", "&=",
    "^=", "|=", "+", "-", "*", "/", "%", "<", ">", "&", "^", "|", "!", "~", "?", ":", "=", "(", ")"]

/-- Whether a character may stand in a name. -/
def inName (c : Char) : Bool := c.isAlphanum || c = '_'

/-- The tokens of a text; `fuel` bounds their number. -/
def tokensUpTo : Nat → List Char → List Token
  | 0, _ => []
  | _, [] => []
  | fuel + 1, c :: rest =>
    if c = ' ' || c = '\t' || c = '\n' then tokensUpTo fuel rest
    else if c.isDigit then
      let (n, left) := numberAt (c :: rest)
      .number (nearest n) :: tokensUpTo fuel left
    else if inName c then
      let name := (c :: rest).takeWhile inName
      .name (String.ofList name) :: tokensUpTo fuel ((c :: rest).drop name.length)
    else
      match signs.find? fun s => s.toList.isPrefixOf (c :: rest) with
      | some s => .sign s :: tokensUpTo fuel ((c :: rest).drop s.length)
      | none => .bad :: tokensUpTo fuel rest

/-- The tokens of a text. -/
def tokens (text : String) : List Token := tokensUpTo text.length text.toList

/-! ### Values -/

/-- How strongly an operator between two operands binds; less is stronger. -/
def rank : String → Option Nat
  | "*" | "/" | "%" => some 0
  | "+" | "-" => some 1
  | "<<" | ">>" => some 2
  | "<" | "<=" | ">" | ">=" => some 3
  | "==" | "!=" => some 4
  | "&" => some 5
  | "^" => some 6
  | "|" => some 7
  | _ => none

/-- The number of a truth value. -/
def ofBool (b : Bool) : Int64 := if b then 1 else 0

/-- The value of an operator between two operands. -/
def apply (sign : String) (a b : Int64) : Except Fault Int64 :=
  match sign with
  | "*" => .ok (a * b)
  | "/" => if b = 0 then .error .division else .ok (a / b)
  | "%" => if b = 0 then .error .division else .ok (a % b)
  | "+" => .ok (a + b)
  | "-" => .ok (a - b)
  | "<<" => .ok (a <<< b)
  | ">>" => .ok (a >>> b)
  | "<" => .ok (ofBool (a < b))
  | "<=" => .ok (ofBool (a ≤ b))
  | ">" => .ok (ofBool (b < a))
  | ">=" => .ok (ofBool (b ≤ a))
  | "==" => .ok (ofBool (a = b))
  | "!=" => .ok (ofBool (a ≠ b))
  | "&" => .ok (a &&& b)
  | "^" => .ok (a ^^^ b)
  | _ => .ok (a ||| b)

/-- What is left of an expression, and what has been assigned. -/
structure Reading where
  /-- The tokens that have not been read. -/
  rest : List Token
  /-- Names with the numbers that have been assigned to them, last first. -/
  assigned : List (String × Int64)

/-- What evaluates an expression. -/
abbrev Evaluation := StateT Reading (Except Fault)

/-- The next token. -/
def peek : Evaluation (Option Token) := return (← get).rest.head?

/-- Passes over a token. -/
def advance : Evaluation Unit := modify fun r => { r with rest := r.rest.drop 1 }

/-- Passes over an operator if it is next. -/
def accept (sign : String) : Evaluation Bool := do
  if (← peek) = some (.sign sign) then
    advance
    return true
  else return false

/-- The number in a variable; a variable without a value holds zero. -/
def valueOf (look : String → Option String) (name : String) : Evaluation Int64 := do
  match (← get).assigned.lookup name with
  | some n => return n
  | none =>
    match look name with
    | none => return 0
    | some text =>
      if text.isEmpty then return 0
      else
        match readNumber text with
        | some n => return n
        | none => throw (.illegal text)

/-- The operator in an assignment that changes a variable. -/
def changing (sign : String) : Option String :=
  if ["<<=", ">>=", "+=", "-=", "*=", "/=", "%=", "&=", "^=", "|="].contains sign then
    some (String.ofList sign.toList.dropLast)
  else none

mutual

/-- The value of an assignment or a choice; only `needed` ones are evaluated. -/
def assignment (look : String → Option String) : Nat → Bool → Evaluation Int64
  | 0, _ => return 0
  | n + 1, needed => do
    match (← get).rest with
    | .name name :: .sign sign :: rest =>
      let assign (f : Int64 → Evaluation Int64) : Evaluation Int64 := do
        modify fun r => { r with rest := rest }
        let b ← assignment look n needed
        if !needed then return b
        let value ← f b
        modify fun r => { r with assigned := (name, value) :: r.assigned }
        return value
      if sign = "=" then assign pure
      else
        match changing sign with
        | some sign => assign fun b => do apply sign (← valueOf look name) b
        | none => choice look n needed
    | _ => choice look n needed

/-- The value of a choice. -/
def choice (look : String → Option String) : Nat → Bool → Evaluation Int64
  | 0, _ => return 0
  | n + 1, needed => do
    let a ← disjunction look n needed
    if !(← accept "?") then return a
    let b ← assignment look n (needed && a ≠ 0)
    if !(← accept ":") then throw (.expecting "':'")
    let c ← choice look n (needed && a = 0)
    return if a ≠ 0 then b else c

/-- The value of a disjunction. -/
def disjunction (look : String → Option String) : Nat → Bool → Evaluation Int64
  | 0, _ => return 0
  | n + 1, needed => do
    let a ← conjunction look n needed
    if !(← accept "||") then return a
    let b ← disjunction look n (needed && a = 0)
    return ofBool (a ≠ 0 || b ≠ 0)

/-- The value of a conjunction. -/
def conjunction (look : String → Option String) : Nat → Bool → Evaluation Int64
  | 0, _ => return 0
  | n + 1, needed => do
    let a ← primary look n needed
    let a ← operations look n needed a 8
    if !(← accept "&&") then return a
    let b ← conjunction look n (needed && a ≠ 0)
    return ofBool (a ≠ 0 && b ≠ 0)

/-- Applies the operators behind a value that bind more strongly than a rank. -/
def operations (look : String → Option String) : Nat → Bool → Int64 → Nat → Evaluation Int64
  | 0, _, a, _ => return a
  | n + 1, needed, a, limit => do
    match ← peek with
    | some (.sign sign) =>
      match rank sign with
      | none => return a
      | some r =>
        if limit ≤ r then return a
        advance
        let b ← primary look n needed
        let b ← operations look n needed b r
        let value ← if needed then liftM (apply sign a b) else pure b
        operations look n needed value limit
    | _ => return a

/-- The value of an operand. -/
def primary (look : String → Option String) : Nat → Bool → Evaluation Int64
  | 0, _ => return 0
  | n + 1, needed => do
    match ← peek with
    | some (.number value) => advance; return value
    | some (.name name) =>
      advance
      if needed then valueOf look name else return 0
    | some (.sign "(") =>
      advance
      let value ← assignment look n needed
      if !(← accept ")") then throw (.expecting "')'")
      return value
    | some (.sign "+") => advance; primary look n needed
    | some (.sign "-") => advance; return -(← primary look n needed)
    | some (.sign "!") => advance; return ofBool ((← primary look n needed) = 0)
    | some (.sign "~") => advance; return ~~~(← primary look n needed)
    | _ => throw (.expecting "primary")

end

/-- The value of an expression, and what it assigns, in order. -/
def evaluate (look : String → Option String) (text : String) :
    Except Fault (Int64 × List (String × Int64)) :=
  let all := tokens text
  match (assignment look (8 * all.length + 8) true).run ⟨all, []⟩ with
  | .error e => .error e
  | .ok (value, left) =>
    if left.rest.isEmpty then .ok (value, left.assigned.reverse) else .error (.expecting "EOF")

/-- What is said of an expression without a value. -/
def Fault.message (text : String) : Fault → String
  | .expecting what => "arithmetic expression: expecting " ++ what ++ ": \"" ++ text ++ "\""
  | .division => "arithmetic expression: division by zero: \"" ++ text ++ "\""
  | .illegal value => "Illegal number: " ++ value

end WidgetForge.Shell.Arithmetic
