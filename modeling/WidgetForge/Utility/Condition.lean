import WidgetForge.Machine.Invocation
import WidgetForge.Utility.Quoting

/-!
# Conditions

Words can be put together to conditions on texts, numbers and files. Two programs read them, which
part company where the words make no good condition.
-/

namespace WidgetForge.Utility.Condition

open Disk Machine Text

/-! ### Facts -/

/-- The integer that a word writes, with blanks around it. -/
def integer? (word : String) : Option Int :=
  let cs := word.toList.dropWhile isSpace
  let (negative, cs) : Bool × List Char :=
    match cs with
    | '-' :: rest => (true, rest)
    | '+' :: rest => (false, rest)
    | cs => (false, cs)
  let digits := cs.takeWhile Char.isDigit
  if digits.isEmpty || !(cs.drop digits.length).all isSpace then none
  else
    let n := digits.foldl (fun (n : Nat) c => 10 * n + (c.toNat - 48)) 0
    some (if negative then -(n : Int) else n)

/-- Whether something can be said of a file, by the letter for it. -/
def fileHas (m : Machine) (letter : Char) (path : String) : Bool :=
  match m.tree.lookUp (pathOf path), m.tree.locate (pathOf path) with
  | .ok node, .ok place =>
    match letter, node with
    | 'f', .file _ => true
    | 'd', .folder _ => true
    | 'c', .device _ => true
    | 's', .file content => !content.isEmpty
    | 's', .folder _ => true
    | 'x', .folder _ => true
    | 'x', _ => m.runnable.contains place
    | letter, _ => "erwOG".toList.contains letter
  | _, _ => false

/-- Whether a path names a symbolic link. -/
def isLink (m : Machine) (path : String) : Bool :=
  match m.tree.locateEntry (pathOf path) with
  | .ok place => (m.tree.link? place).isSome
  | .error _ => false

/-- Whether two paths lead to the same place. -/
def same (m : Machine) (a b : String) : Bool :=
  match m.tree.locate (pathOf a), m.tree.locate (pathOf b) with
  | .ok p, .ok q => p = q
  | _, _ => false

/-- Whether something stands at a path. -/
def stands (m : Machine) (path : String) : Bool := (m.tree.locate (pathOf path)).toBool

/-- The comparisons of numbers. -/
def comparisons : List (String × (Int → Int → Bool)) :=
  [("-eq", fun a b => a = b), ("-ne", fun a b => a ≠ b), ("-lt", fun a b => a < b),
    ("-le", fun a b => a ≤ b), ("-gt", fun a b => b < a), ("-ge", fun a b => b ≤ a)]

/-- The truth of a condition with an operator between two words, or the word that is no number. -/
def between (m : Machine) (a operator b : String) (limit : Int) : Except String Bool :=
  match comparisons.lookup operator with
  | some compare =>
    let number (w : String) : Except String Int :=
      match integer? w with
      | some n => if -limit ≤ n && n < limit then .ok n else .error w
      | none => .error w
    match number a, number b with
    | .error w, _ => .error w
    | _, .error w => .error w
    | .ok x, .ok y => .ok (compare x y)
  | none =>
    .ok <|
      match operator with
      | "=" | "==" => a = b
      | "!=" => a ≠ b
      | "<" => Octetwise.write a < Octetwise.write b
      | ">" => Octetwise.write b < Octetwise.write a
      | "-ef" => same m a b
      | _ => false

/-- The truth of a condition with an operator before a word. -/
def before (m : Machine) (letter : Char) (word : String) : Bool :=
  match letter with
  | 'n' => !word.isEmpty
  | 'z' => word.isEmpty
  | 't' => false
  | 'h' | 'L' => isLink m word
  | letter => fileHas m letter word

/-! ### Conditions of a shell -/

namespace Shell

/-- The operators between two words. -/
def binary : List String :=
  ["=", "!=", "<", ">", "-eq", "-ne", "-ge", "-gt", "-le", "-lt", "-nt", "-ot", "-ef"]

/-- The letters of the operators before a word. -/
def unary : String := "rwxefdcbpugkstznhOGLS"

/-- What a word is in a condition. -/
inductive Token where
  /-- There is none. -/
  | ending
  /-- An operator between two words. -/
  | binary
  /-- An operator before a word. -/
  | unary (letter : Char)
  /-- One of the signs that join conditions. -/
  | sign (s : String)
  /-- Any other word. -/
  | operand

/-- What a word is by itself. -/
def kindOf (w : String) : Token :=
  if binary.contains w then .binary
  else if ["!", "-a", "-o", "(", ")"].contains w then .sign w
  else
    match w.toList with
    | ['-', c] => if unary.toList.contains c then .unary c else .operand
    | _ => .operand

/-- Whether an operator before a word is itself a word here: if nothing follows, or an operator
between two words does. -/
def isOperand : List String → Bool
  | [] => true
  | [_] => false
  | next :: _ =>
    match kindOf next with
    | .binary => true
    | _ => false

/-- What the first of some words is. -/
def tokenAt : List String → Token
  | [] => .ending
  | w :: rest =>
    match kindOf w with
    | .unary c => if isOperand rest then .operand else .unary c
    | .sign "(" => if rest.isEmpty then .operand else .sign "("
    | t => t

/-- The truth of a condition and the last word of it with all that follow. -/
abbrev Reading := Except String (Bool × List String)

mutual

/-- Reads alternatives. -/
def alternatives (m : Machine) : Nat → List String → Reading
  | 0, ws => .ok (false, ws)
  | n + 1, ws =>
    match conjunctions m n ws with
    | .error e => .error e
    | .ok (a, left) =>
      match tokenAt (left.drop 1) with
      | .sign "-o" =>
        match alternatives m n (left.drop 2) with
        | .error e => .error e
        | .ok (b, left) => .ok (a || b, left)
      | _ => .ok (a, left)

/-- Reads conditions that must all be true. -/
def conjunctions (m : Machine) : Nat → List String → Reading
  | 0, ws => .ok (false, ws)
  | n + 1, ws =>
    match negations m n ws with
    | .error e => .error e
    | .ok (a, left) =>
      match tokenAt (left.drop 1) with
      | .sign "-a" =>
        match conjunctions m n (left.drop 2) with
        | .error e => .error e
        | .ok (b, left) => .ok (a && b, left)
      | _ => .ok (a, left)

/-- Reads a condition that may be negated. -/
def negations (m : Machine) : Nat → List String → Reading
  | 0, ws => .ok (false, ws)
  | n + 1, ws =>
    match tokenAt ws with
    | .sign "!" =>
      if (ws.drop 1).isEmpty then .ok (true, ws)
      else (negations m n (ws.drop 1)).map fun (a, left) => (!a, left)
    | t => primary m n t ws

/-- Reads a simple condition. -/
def primary (m : Machine) : Nat → Token → List String → Reading
  | 0, _, ws => .ok (false, ws)
  | n + 1, t, ws =>
    match t, ws with
    | .ending, ws => .ok (false, ws)
    | .sign "(", ws =>
      match tokenAt (ws.drop 1) with
      | .sign ")" => .ok (false, ws.drop 1)
      | _ =>
        match alternatives m n (ws.drop 1) with
        | .error e => .error e
        | .ok (a, left) =>
          match tokenAt (left.drop 1) with
          | .sign ")" => .ok (a, left.drop 1)
          | _ => .error "closing paren expected"
    | .unary c, op :: rest =>
      match rest with
      | [] => .error (op ++ ": argument expected")
      | w :: more => .ok (before m c w, w :: more)
    | _, a :: rest =>
      match tokenAt rest, rest with
      | .binary, op :: more =>
        match more with
        | [] => .error (op ++ ": argument expected")
        | b :: left =>
          match between m a op b 0x8000000000000000 with
          | .error w => .error ("Illegal number: " ++ w)
          | .ok truth => .ok (truth, b :: left)
      | _, _ => .ok (!a.isEmpty, a :: rest)
    | _, [] => .ok (false, [])

end

/-- The truth of a condition, all of whose words must have been read. -/
def complete : Reading → Except String Bool
  | .error e => .error e
  | .ok (_, w :: _ :: _) => .error (w ++ ": unexpected operator")
  | .ok (truth, _) => .ok truth

/-- The truth of some words. -/
def evaluateUpTo (m : Machine) : Nat → List String → Except String Bool
  | 0, _ => .ok false
  | n + 1, ws =>
    let all := complete (alternatives m (8 * ws.length + 8) ws)
    let short := ws.length = 3 || ws.length = 4
    match ws with
    | [] => .ok false
    | first :: more =>
      if ws.length = 3 && binary.contains (more.headD "") then complete (primary m 1 .operand ws)
      else if short && first = "!" then (evaluateUpTo m n more).map (!·)
      else if short && first = "(" && ws.getLast? = some ")" then evaluateUpTo m n more.dropLast
      else all

/-- The truth of some words. -/
def evaluate (m : Machine) (ws : List String) : Except String Bool :=
  evaluateUpTo m (ws.length + 1) ws

end Shell

/-! ### Conditions of a program -/

namespace Tool

/-- The operators between two words. -/
def binary : List String :=
  ["=", "==", "!=", "-eq", "-ne", "-ge", "-gt", "-le", "-lt", "-nt", "-ot", "-ef"]

/-- The letters of the operators before a word. -/
def unary : String := "erwxOGNfdsScbpLhugktnz"

/-- Whether a word looks like an operator before another. -/
def looksUnary (w : String) : Bool := w.toList.head? = some '-' && w.length = 2

/-- The truth of a condition and the words behind it. -/
abbrev Reading := Except String (Bool × List String)

/-- The condition with an operator before a word; `last` is the last word of all. -/
def unaryAt (m : Machine) (last : String) : List String → Reading
  | op :: rest =>
    let letter := op.toList.getD 1 ' '
    if !unary.toList.contains letter then .error (Quoting.quoted op ++ ": unary operator expected")
    else
      match rest with
      | [] => .error ("missing argument after " ++ Quoting.quoted last)
      | w :: rest => .ok (before m letter w, rest)
  | [] => .error ("missing argument after " ++ Quoting.quoted last)

/-- The condition with an operator between two words. -/
def binaryAt (m : Machine) (a op b : String) (rest : List String) : Reading :=
  match op with
  | "-nt" => .ok (stands m a && !stands m b, rest)
  | "-ot" => .ok (!stands m a && stands m b, rest)
  | _ =>
    match between m a op b (Nat.pow 10 100) with
    | .error w => .error ("invalid integer " ++ Quoting.quoted w)
    | .ok truth => .ok (truth, rest)

mutual

/-- Reads as many words as are given by the rules for their number. -/
def counted (m : Machine) (last : String) : Nat → Nat → List String → Reading
  | 0, _, ws => .ok (false, ws)
  | n + 1, count, ws =>
    match count, ws with
    | 1, a :: rest => .ok (!a.isEmpty, rest)
    | 2, a :: b :: rest =>
      if a = "!" then .ok (b.isEmpty, rest)
      else if looksUnary a then unaryAt m last ws
      else .error ("missing argument after " ++ Quoting.quoted last)
    | 3, a :: b :: c :: rest =>
      if binary.contains b then binaryAt m a b c rest
      else if a = "!" then (counted m last n 2 (b :: c :: rest)).map fun (t, left) => (!t, left)
      else if a = "(" && c = ")" then .ok (!b.isEmpty, rest)
      else if b = "-a" || b = "-o" then alternatives m last n ws
      else .error (Quoting.quoted b ++ ": binary operator expected")
    | 4, a :: b :: c :: d :: rest =>
      if a = "!" then (counted m last n 3 (b :: c :: d :: rest)).map fun (t, left) => (!t, left)
      else if a = "(" && d = ")" then
        (counted m last n 2 (b :: c :: d :: rest)).map fun (t, left) => (t, left.drop 1)
      else alternatives m last n ws
    | _, ws => alternatives m last n ws

/-- Reads alternatives. -/
def alternatives (m : Machine) (last : String) : Nat → List String → Reading
  | 0, ws => .ok (false, ws)
  | n + 1, ws =>
    match conjunctions m last n ws with
    | .ok (a, "-o" :: rest) => (alternatives m last n rest).map fun (b, left) => (a || b, left)
    | r => r

/-- Reads conditions that must all be true. -/
def conjunctions (m : Machine) (last : String) : Nat → List String → Reading
  | 0, ws => .ok (false, ws)
  | n + 1, ws =>
    match term m last n ws with
    | .ok (a, "-a" :: rest) => (conjunctions m last n rest).map fun (b, left) => (a && b, left)
    | r => r

/-- Reads a simple condition, which may be negated. -/
def term (m : Machine) (last : String) : Nat → List String → Reading
  | 0, ws => .ok (false, ws)
  | n + 1, ws =>
    match ws with
    | [] => .error ("missing argument after " ++ Quoting.quoted last)
    | "!" :: rest =>
      if rest.isEmpty then .error ("missing argument after " ++ Quoting.quoted last)
      else (term m last n rest).map fun (t, left) => (!t, left)
    | "(" :: rest =>
      let inside := rest.takeWhile (· ≠ ")")
      let count := if inside.length < 4 then max 1 inside.length else rest.length
      match if rest.isEmpty then .error ("missing argument after " ++ Quoting.quoted last)
          else counted m last n count rest with
      | .error e => .error e
      | .ok (t, ")" :: left) => .ok (t, left)
      | .ok (_, []) => .error (Quoting.quoted ")" ++ " expected")
      | .ok (_, w :: _) => .error (Quoting.quoted ")" ++ " expected, found " ++ Quoting.quoted w)
    | a :: op :: b :: rest =>
      if binary.contains op then binaryAt m a op b rest
      else if looksUnary a then unaryAt m last ws
      else .ok (!a.isEmpty, op :: b :: rest)
    | a :: rest => if looksUnary a then unaryAt m last ws else .ok (!a.isEmpty, rest)

end

/-- The truth of some words. -/
def evaluate (m : Machine) (ws : List String) : Except String Bool :=
  if ws.isEmpty then .ok false
  else
    match counted m (ws.getLastD "") (8 * ws.length + 8) ws.length ws with
    | .error e => .error e
    | .ok (t, []) => .ok t
    | .ok (_, w :: _) => .error ("extra argument " ++ Quoting.quoted w)

end Tool

/-- The words of a condition, without the closing bracket if the program is called by the opening
one. -/
def body (name : String) (ws : List String) : Option (List String) :=
  if name.toList.getLast? = some '[' then
    if ws.getLast? = some "]" then some ws.dropLast else none
  else some ws

/-- Ends a program with the truth of its condition. -/
def finish (p : Invocation) (missing : String)
    (evaluate : Machine → List String → Except String Bool) : Act Nat := do
  match body p.name p.arguments with
  | none => p.fail 2 missing
  | some ws =>
    match evaluate (← get) ws with
    | .error e => p.fail 2 e
    | .ok true => return 0
    | .ok false => return 1

/-- The program that is part of a shell. -/
def shellProgram : Program := fun p => finish p "missing ]" Shell.evaluate

/-- The program of its own. -/
def program : Program := fun p => finish p "missing ']'" Tool.evaluate

end WidgetForge.Utility.Condition
