import WidgetForge.Regex.Reader

/-!
# Expressions of words

An expression is made of words: operands, operators between them and parentheses. Operands are
texts, and a text that writes an integer is a number where one is asked for.
-/

namespace WidgetForge.Utility.Expression

open Machine

/-- The integer that a text writes. -/
def integer? (text : String) : Option Int :=
  match text.toList with
  | '-' :: cs => (plainNumber? cs).map fun n => -(n : Int)
  | cs => (plainNumber? cs).map Int.ofNat

/-- Whether a text counts as false: it is empty or a zero. -/
def isNull (text : String) : Bool :=
  let digits :=
    match text.toList with
    | '-' :: cs => cs
    | cs => cs
  text.isEmpty || (!digits.isEmpty && digits.all (· = '0'))

/-- A truth as a number. -/
def ofTruth (b : Bool) : String := if b then "1" else "0"

/-- The value of an expression and the words behind it, or a complaint. -/
abbrev Reading := Except String (String × List String)

/-- The number of characters or the group that an expression matches at the start of a text. -/
def matched (text pattern : String) : Except String String :=
  match Regex.read false false pattern.toList with
  | .error e => .error e.message
  | .ok r =>
    let cs := text.toList.toArray
    match r.matchAt ⟨false, false⟩ cs 0 with
    | none => .ok (if 0 < r.groups then "" else "0")
    | some found =>
      .ok (if 0 < r.groups then String.ofList (found.group cs 1) else toString found.stop)

/-- Compares two operands as numbers if both are, and else as texts. -/
def compared (a b : String) : Ordering :=
  match integer? a, integer? b with
  | some m, some n => compare m n
  | _, _ => compare (a.toList.map Char.toNat) (b.toList.map Char.toNat)

/-- The operators that compare. -/
def comparisons : List (String × (Ordering → Bool)) :=
  [("<", (· = .lt)), ("<=", (· ≠ .gt)), ("=", (· = .eq)), ("==", (· = .eq)), ("!=", (· ≠ .eq)),
    (">=", (· ≠ .lt)), (">", (· = .gt))]

/-- The result of an operator on numbers. -/
def calculate (operator a b : String) : Except String String :=
  match integer? a, integer? b with
  | some m, some n =>
    if operator = "+" then .ok (toString (m + n))
    else if operator = "-" then .ok (toString (m - n))
    else if operator = "*" then .ok (toString (m * n))
    else if n = 0 then .error "division by zero"
    else if operator = "/" then .ok (toString (m.tdiv n))
    else .ok (toString (m.tmod n))
  | _, _ => .error "non-integer argument"

/-- The part of a text from a position on. -/
def substring (text start length : String) : String :=
  match integer? start, integer? length with
  | some i, some n =>
    if i ≤ 0 || n ≤ 0 then "" else String.ofList ((text.toList.drop (i.toNat - 1)).take n.toNat)
  | _, _ => ""

/-- The operators by how strongly they bind, from the weakest. -/
def levels : List (List String) :=
  [["|"], ["&"], ["<", "<=", "=", "==", "!=", ">=", ">"], ["+", "-"], ["*", "/", "%"], [":"]]

/-- The result of an operator. -/
def apply (operator a b : String) : Except String String :=
  match operator with
  | "|" => .ok (if !isNull a then a else if !isNull b then b else "0")
  | "&" => .ok (if isNull a || isNull b then "0" else a)
  | ":" => matched a b
  | _ =>
    match comparisons.lookup operator with
    | some test => .ok (ofTruth (test (compared a b)))
    | none => calculate operator a b

mutual

/-- Reads the operators of a level behind an operand; `before` is the word in front, and `fuel`
bounds the number of words and levels. -/
def behind : Nat → List (List String) → List String → String → String → List String → Reading
  | 0, _, _, _, _, _ => .error "syntax error"
  | fuel + 1, stronger, operators, before, value, words =>
    match words with
    | [] => .ok (value, [])
    | w :: rest =>
      if operators.contains w then
        match level fuel stronger w rest with
        | .error e => .error e
        | .ok (other, left) =>
          match apply w value other with
          | .error e => .error e
          | .ok result => behind fuel stronger operators before result left
      else .ok (value, words)

/-- Reads an expression of the operators of a level and of stronger ones. -/
def level : Nat → List (List String) → String → List String → Reading
  | 0, _, _, _ => .error "syntax error"
  | fuel + 1, operators :: stronger, before, words =>
    match level fuel stronger before words with
    | .error e => .error e
    | .ok (value, rest) => behind fuel stronger operators before value rest
  | fuel + 1, [], before, words =>
    let missing (w : String) : Reading :=
      .error ("syntax error: missing argument after " ++ Quoting.quoted w)
    let one (before : String) (words : List String) : Reading := level fuel [] before words
    match words with
    | [] => missing before
    | "(" :: rest =>
      match level fuel levels "(" rest with
      | .error e => .error e
      | .ok (value, ")" :: left) => .ok (value, left)
      | .ok (_, left) =>
        let taken := rest.take (rest.length - left.length)
        if left.isEmpty then
          .error ("syntax error: expecting ')' after " ++ Quoting.quoted (taken.getLastD ""))
        else .error ("syntax error: expecting ')' instead of " ++ Quoting.quoted (left.headD ""))
    | ")" :: _ => .error "syntax error: unexpected ')'"
    | "+" :: rest =>
      match rest with
      | [] => missing "+"
      | w :: left => .ok (w, left)
    | "length" :: rest =>
      match one "length" rest with
      | .error e => .error e
      | .ok (text, left) => .ok (toString text.length, left)
    | "match" :: rest =>
      match one "match" rest with
      | .error e => .error e
      | .ok (text, left) =>
        match one (rest.headD "") left with
        | .error e => .error e
        | .ok (pattern, left) => (matched text pattern).map fun found => (found, left)
    | "index" :: rest =>
      match one "index" rest with
      | .error e => .error e
      | .ok (text, left) =>
        match one (rest.headD "") left with
        | .error e => .error e
        | .ok (set, left) =>
          let place := (text.toList.findIdx? fun c => set.toList.contains c).elim 0 (· + 1)
          .ok (toString place, left)
    | "substr" :: rest =>
      match one "substr" rest with
      | .error e => .error e
      | .ok (text, left) =>
        match one (rest.headD "") left with
        | .error e => .error e
        | .ok (start, left') =>
          match one (left.headD "") left' with
          | .error e => .error e
          | .ok (length, left) => .ok (substring text start length, left)
    | w :: rest => .ok (w, rest)

end

/-- Prints the value of an expression. -/
def program : Program := fun p => do
  let words := if p.arguments.head? = some "--" then p.arguments.drop 1 else p.arguments
  if words.isEmpty then misused p 2 "missing operand"
  else
    match level (16 * words.length + 16) levels "" words with
    | .error e => p.fail 2 e
    | .ok (_, extra :: _) => p.fail 2 ("syntax error: unexpected argument " ++ Quoting.quoted extra)
    | .ok (value, []) =>
      p.print (value ++ "\n")
      return if isNull value then 1 else 0

end WidgetForge.Utility.Expression
