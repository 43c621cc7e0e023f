import WidgetForge.Json.Fault
import WidgetForge.Text.Hexadecimal

/-!
# Reading JSON

A reader takes the characters that are left, and gives a value and the characters behind it, or the
first fault. Blanks are the space, the tab, the line feed and the carriage return. A string may
hold any character but the control characters below U+0020; escaped surrogates must come in pairs.
Brackets may be nested `depthLimit` deep.

Digits are kept exactly while 64 bits hold them. A number that is not an integer of 64 bits is the
double nearest to its leading digits, multiplied or divided by one power of ten, which is not always
the double nearest to the number.
-/

namespace WidgetForge.Json

/-- What reads a value at the front of a text. -/
abbrev Reader (α : Type) := List Char → Except Fault (α × List Char)

/-- How deep brackets may be nested. -/
def depthLimit : Nat := 127

/-- The blanks of JSON. -/
def isBlank (c : Char) : Bool := c = ' ' || c = '\n' || c = '\t' || c = '\r'

/-- The text without the blanks at its front. -/
def skipBlanks : List Char → List Char
  | [] => []
  | c :: rest => if isBlank c then skipBlanks rest else c :: rest

/-- Reads the letters that complete a word. -/
def word {α : Type} (value : α) : List Char → Reader α
  | [], cs => .ok (value, cs)
  | _ :: _, [] => .error (.before .endInValue [])
  | l :: letters, c :: rest =>
    if c = l then word value letters rest else .error (.on .noWord (c :: rest))

/-! ### Numbers -/

/-- The value of a digit. -/
def digit (c : Char) : Nat := c.toNat - 48

/-- Appends digits to a number while it stays below the limit; gives the digits that are left. -/
def accumulate (limit n : Nat) : List Char → Nat × List Char
  | [] => (n, [])
  | d :: ds =>
    if 10 * n + digit d < limit then accumulate limit (10 * n + digit d) ds else (n, d :: ds)

/-- Ten to the power of `n`, as a double. -/
def tenTo (n : Nat) : Float := Float.ofScientific 1 false n

/-- Multiplies a double by a power of ten; none if the result is too large. A power beyond the
range of doubles is applied in steps. -/
def scaleReal : Nat → Float → Int → Option Float
  | 0, x, _ => some x
  | fuel + 1, x, e =>
    if e.natAbs ≤ 308 then
      if 0 ≤ e then
        let y := x * tenTo e.natAbs
        if y.isInf then none else some y
      else some (x / tenTo e.natAbs)
    else if x == 0 then some x
    else if 0 ≤ e then none
    else scaleReal fuel (x / tenTo 308) (e + 308)

/-- The double for a sign, leading digits and a power of ten. -/
def realNumber (negative : Bool) (n : Nat) (e : Int) : Reader Number := fun rest =>
  match scaleReal (e.natAbs / 308 + 1) (Float.ofNat n) e with
  | none => .error (.before .hugeNumber rest)
  | some x => .ok (.real (if negative then -x else x), rest)

/-- Whether an exponent is negative, and its digits. -/
def exponentSign : List Char → Bool × List Char
  | [] => (false, [])
  | c :: rest =>
    if c = '+' then (false, rest) else if c = '-' then (true, rest) else (false, c :: rest)

/-- Ends a number with the digits of its exponent. -/
def exponentTail (negative : Bool) (n : Nat) (e : Int) (down : Bool) (digits : List Char) :
    Reader Number := fun rest =>
  if digits.isEmpty then
    .error (if rest.isEmpty then .before .endInValue [] else .on .badNumber rest)
  else
    match accumulate 0x80000000 0 digits with
    | (x, []) => realNumber negative n (if down then e - x else e + x) rest
    | (_, _ :: extra) =>
      if n ≠ 0 && !down then .error (.before .hugeNumber (extra ++ rest))
      else .ok (.real (if negative then -0.0 else 0.0), rest)

/-- Reads the digits of an exponent. -/
def exponentDigits (negative : Bool) (n : Nat) (e : Int) (down : Bool) : Reader Number := fun cs =>
  exponentTail negative n e down (cs.takeWhile Char.isDigit) (cs.dropWhile Char.isDigit)

/-- Reads an exponent behind its letter. -/
def exponent (negative : Bool) (n : Nat) (e : Int) : Reader Number := fun cs =>
  exponentDigits negative n e (exponentSign cs).1 (exponentSign cs).2

/-- Reads an exponent, if one comes next. -/
def exponentOrEnd (negative : Bool) (n : Nat) (e : Int) : Reader Number := fun cs =>
  match cs with
  | c :: rest =>
    if c = 'e' || c = 'E' then exponent negative n e rest else realNumber negative n e cs
  | [] => realNumber negative n e cs

/-- Goes on behind the point with the digits there, and reads what follows them. -/
def fractionTail (negative : Bool) (n : Nat) (e : Int) (digits : List Char) : Reader Number :=
  fun rest =>
  if digits.isEmpty then
    .error (.on (if rest.isEmpty then .endInValue else .badNumber) rest)
  else
    let (m, extra) := accumulate 0x10000000000000000 n digits
    exponentOrEnd negative m (e - (digits.length - extra.length : Nat)) rest

/-- Reads the digits behind the point, and what follows them. -/
def fraction (negative : Bool) (n : Nat) (e : Int) : Reader Number := fun cs =>
  fractionTail negative n e (cs.takeWhile Char.isDigit) (cs.dropWhile Char.isDigit)

/-- The integer for a sign and digits that 64 bits hold. Minus zero and what is below the range
are doubles. -/
def wholeNumber (negative : Bool) (n : Nat) : Number :=
  if negative then
    if h : n ≠ 0 ∧ n ≤ 0x8000000000000000 then .integer (-(n : Int)) (by unfold isExact; omega)
    else .real (-(Float.ofNat n))
  else if h : n < 0x10000000000000000 then .integer n (by unfold isExact; omega)
  else .real (Float.ofNat n)

/-- Reads what follows the digits before the point; `extra` of them did not go into `n`. -/
def numberTail (negative : Bool) (n extra : Nat) : Reader Number := fun cs =>
  match cs with
  | c :: rest =>
    if c = '.' then fraction negative n extra rest
    else if c = 'e' || c = 'E' then exponent negative n extra rest
    else if extra = 0 then .ok (wholeNumber negative n, cs)
    else realNumber negative n extra cs
  | [] =>
    if extra = 0 then .ok (wholeNumber negative n, []) else realNumber negative n extra []

/-- Reads a number behind its sign. A zero is not followed by a digit. -/
def number (negative : Bool) : Reader Number := fun cs =>
  match cs with
  | [] => .error (.before .endInValue [])
  | c :: rest =>
    if c = '0' then
      if (rest.head?.any Char.isDigit) then .error (.on .badNumber rest)
      else numberTail negative 0 0 rest
    else if c.isDigit then
      let (n, extra) := accumulate 0x10000000000000000 0 (cs.takeWhile Char.isDigit)
      numberTail negative n extra.length (cs.dropWhile Char.isDigit)
    else .error (.on .badNumber (c :: rest))

/-! ### Strings -/

/-- The character that a backslash and a letter stand for. -/
def shortEscape (c : Char) : Option Char :=
  if c = '"' then some '"'
  else if c = '\\' then some '\\'
  else if c = '/' then some '/'
  else if c = 'b' then some (Char.ofNat 8)
  else if c = 'f' then some (Char.ofNat 12)
  else if c = 'n' then some '\n'
  else if c = 'r' then some '\r'
  else if c = 't' then some '\t'
  else none

/-- The fault when no four digits follow. Four octets are taken for them if there are so many. -/
def hexFault (rest : List Char) : Fault :=
  if 4 ≤ Text.Utf8.size rest then ⟨.badEscape, Text.Utf8.size rest - 4⟩ else ⟨.endInString, 0⟩

/-- The first halves of surrogate pairs. -/
def isHigh (n : Nat) : Bool := 0xd800 ≤ n && n ≤ 0xdbff

/-- The second halves of surrogate pairs. -/
def isLow (n : Nat) : Bool := 0xdc00 ≤ n && n ≤ 0xdfff

/-- The character of a surrogate pair. -/
def joinSurrogates (high low : Nat) : Char :=
  Char.ofNat ((high - 0xd800) * 0x400 + (low - 0xdc00) + 0x10000)

/-- Reads the rest of a string behind its opening quote; `read` holds the characters already read,
last first. -/
def stringTail (read : List Char) : List Char → Except Fault (List Char × List Char)
  | [] => .error (.before .endInString [])
  | c :: rest =>
    if c = '"' then .ok (read.reverse, rest)
    else if c = '\\' then
      match rest with
      | [] => .error (.before .endInString [])
      | e :: rest =>
        match shortEscape e with
        | some d => stringTail (d :: read) rest
        | none =>
          if e ≠ 'u' then .error (.on .badEscape (e :: rest))
          else
            match rest with
            | a :: b :: c :: d :: rest =>
              match Text.Hexadecimal.quad a b c d with
              | none => .error (hexFault (a :: b :: c :: d :: rest))
              | some n =>
                if isLow n then .error (.before .loneSurrogate rest)
                else if isHigh n then
                  match rest with
                  | [] => .error (.before .endInString [])
                  | x :: rest =>
                    if x ≠ '\\' then .error (.on .halfEscape (x :: rest))
                    else
                      match rest with
                      | [] => .error (.before .endInString [])
                      | y :: rest =>
                        if y ≠ 'u' then .error (.on .halfEscape (y :: rest))
                        else
                          match rest with
                          | a :: b :: c :: d :: rest =>
                            match Text.Hexadecimal.quad a b c d with
                            | none => .error (hexFault (a :: b :: c :: d :: rest))
                            | some m =>
                              if isLow m then stringTail (joinSurrogates n m :: read) rest
                              else .error (.before .loneSurrogate rest)
                          | rest => .error (hexFault rest)
                else stringTail (Char.ofNat n :: read) rest
            | rest => .error (hexFault rest)
    else if c.toNat < 32 then .error (.before .control rest)
    else stringTail (c :: read) rest

/-- Reads the rest of a string behind its opening quote. -/
def string : Reader String := fun cs =>
  (stringTail [] cs).map fun (read, rest) => (String.ofList read, rest)

/-! ### Values -/

/-- Reads a value that is neither an array nor an object. -/
def scalar : Reader Value := fun cs =>
  match cs with
  | [] => .error (.on .endInValue [])
  | c :: rest =>
    if c = 'n' then word .null "ull".toList rest
    else if c = 't' then word (.bool true) "rue".toList rest
    else if c = 'f' then word (.bool false) "alse".toList rest
    else if c = '-' then (number true rest).map fun (n, rest) => (.number n, rest)
    else if c.isDigit then (number false cs).map fun (n, rest) => (.number n, rest)
    else if c = '"' then (string rest).map fun (s, rest) => (.string s, rest)
    else .error (.on .noValue cs)

/-- Goes to the next item of an array, past a comma unless it is the first: whether there is one,
and the text from it on or behind the closing bracket. -/
def nextItem (first : Bool) : Reader Bool := fun cs =>
  match skipBlanks cs with
  | [] => .error (.on .endInArray [])
  | c :: rest =>
    if c = ']' then .ok (false, rest)
    else if first then .ok (true, c :: rest)
    else if c = ',' then
      match skipBlanks rest with
      | [] => .error (.on .endInValue [])
      | d :: rest =>
        if d = ']' then .error (.on .trailingComma (d :: rest)) else .ok (true, d :: rest)
    else .error (.on .noItemEnd (c :: rest))

/-- Reads the next key of an object, past a comma unless it is the first: the key, if there is one,
and the text behind it or behind the closing bracket. -/
def nextKey (first : Bool) : Reader (Option String) := fun cs =>
  let key (cs : List Char) : Except Fault (Option String × List Char) :=
    (string cs).map fun (k, rest) => (some k, rest)
  match skipBlanks cs with
  | [] => .error (.on .endInObject [])
  | c :: rest =>
    if c = '\x7d' then .ok (none, rest)
    else if first then
      if c = '"' then key rest else .error (.on .keyNotString (c :: rest))
    else if c = ',' then
      match skipBlanks rest with
      | [] => .error (.on .endInValue [])
      | d :: rest =>
        if d = '"' then key rest
        else if d = '\x7d' then .error (.on .trailingComma (d :: rest))
        else .error (.on .keyNotString (d :: rest))
    else .error (.on .noMemberEnd (c :: rest))

/-- Goes past the colon behind a key. -/
def colon : Reader Unit := fun cs =>
  match skipBlanks cs with
  | [] => .error (.on .endInObject [])
  | c :: rest => if c = ':' then .ok ((), rest) else .error (.on .noColon (c :: rest))

/-- Reads the items of an array and its closing bracket, at most `fuel` items, and combines them. -/
def foldItems {σ : Type} (step : σ → Reader σ) : Nat → Bool → σ → Reader σ
  | 0, _, _, cs => .error (.before .endInArray cs)
  | fuel + 1, first, s, cs =>
    match nextItem first cs with
    | .error f => .error f
    | .ok (false, rest) => .ok (s, rest)
    | .ok (true, rest) =>
      match step s rest with
      | .error f => .error f
      | .ok (s, rest) => foldItems step fuel false s rest

/-- Reads the members of an object and its closing bracket, at most `fuel` members, and combines
them. The step is given the key and reads on behind it, from the colon on. -/
def foldMembers {σ : Type} (step : σ → String → Reader σ) : Nat → Bool → σ → Reader σ
  | 0, _, _, cs => .error (.before .endInObject cs)
  | fuel + 1, first, s, cs =>
    match nextKey first cs with
    | .error f => .error f
    | .ok (none, rest) => .ok (s, rest)
    | .ok (some key, rest) =>
      match step s key rest with
      | .error f => .error f
      | .ok (s, rest) => foldMembers step fuel false s rest

/-- Reads all items behind an opening bracket. Each takes a character at least. -/
def items {σ : Type} (step : σ → Reader σ) (s : σ) : Reader σ := fun cs =>
  foldItems step (cs.length + 1) true s cs

/-- Reads all members behind an opening bracket. Each takes a character at least. -/
def members {σ : Type} (step : σ → String → Reader σ) (s : σ) : Reader σ := fun cs =>
  foldMembers step (cs.length + 1) true s cs

/-- Reads an item and puts it before those already read. -/
def item (reader : Reader Value) (read : List Value) : Reader (List Value) := fun cs =>
  (reader cs).map fun (v, rest) => (v :: read, rest)

/-- Reads a member behind its key and puts it before those already read. -/
def member (reader : Reader Value) (read : List (String × Value)) (key : String) :
    Reader (List (String × Value)) := fun cs =>
  match colon cs with
  | .error f => .error f
  | .ok (_, cs) => (reader cs).map fun (v, rest) => ((key, v) :: read, rest)

/-- Reads a value in which brackets are nested at most `depth` deep, with all members of its
objects. -/
def value : Nat → Reader Value
  | depth, cs =>
    match skipBlanks cs with
    | [] => .error (.on .endInValue [])
    | c :: rest =>
      if c = '[' then
        match depth with
        | 0 => .error (.on .tooDeep (c :: rest))
        | depth + 1 =>
          (items (item (value depth)) [] rest).map fun (read, rest) => (.array read.reverse, rest)
      else if c = '\x7b' then
        match depth with
        | 0 => .error (.on .tooDeep (c :: rest))
        | depth + 1 =>
          (members (member (value depth)) [] rest).map
            fun (read, rest) => (.object read.reverse, rest)
      else scalar (c :: rest)

/-! ### Texts -/

/-- Reads a whole text, behind which only blanks may stand. -/
def readText {α : Type} (reader : Reader α) (text : String) : Except Error α :=
  match reader text.toList with
  | .error f => .error (f.place text)
  | .ok (a, rest) =>
    match skipBlanks rest with
    | [] => .ok a
    | c :: rest => .error (Fault.place text (.on .trailing (c :: rest)))

/-- The value of a text, with all members of its objects. -/
def Value.read (text : String) : Except Error Value := readText (value depthLimit) text

/-- The value of a text. Of a repeated key the first position and the last value count. -/
def Value.parse (text : String) : Except Error Value := (Value.read text).map Value.settle

end WidgetForge.Json
