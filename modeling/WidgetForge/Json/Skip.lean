import WidgetForge.Json.Reader

/-!
# Skipping a value

A member that nothing asks for is passed over: its value has to be well formed, but nothing of it is
kept. So brackets may be nested to any depth, numbers may be of any size, and a surrogate may stand
alone.
-/

namespace WidgetForge.Json

/-- Passes the digits at the front. -/
def skipDigits (cs : List Char) : List Char := cs.dropWhile Char.isDigit

/-- Passes at least one digit. -/
def skipSomeDigits : Reader Unit := fun cs =>
  if cs.head?.any Char.isDigit then .ok ((), skipDigits cs) else .error (.on .badNumber cs)

/-- Passes an exponent, if one comes next. -/
def skipExponent : Reader Unit := fun cs =>
  match cs with
  | c :: rest =>
    if c = 'e' || c = 'E' then
      match rest with
      | s :: digits => skipSomeDigits (if s = '+' || s = '-' then digits else s :: digits)
      | [] => .error (.on .badNumber [])
    else .ok ((), cs)
  | [] => .ok ((), [])

/-- Passes a point and the digits behind it, if a point comes next, and an exponent. -/
def skipFraction : Reader Unit := fun cs =>
  match cs with
  | c :: rest =>
    if c = '.' then
      match skipSomeDigits rest with
      | .error f => .error f
      | .ok (_, rest) => skipExponent rest
    else skipExponent cs
  | [] => .ok ((), [])

/-- Passes a number behind its sign. -/
def skipNumber : Reader Unit := fun cs =>
  match cs with
  | [] => .error (.on .badNumber [])
  | c :: rest =>
    if c = '0' then
      if rest.head?.any Char.isDigit then .error (.on .badNumber rest) else skipFraction rest
    else if c.isDigit then skipFraction (skipDigits rest)
    else .error (.on .badNumber (c :: rest))

/-- Passes the rest of a string behind its opening quote. -/
def skipString : Reader Unit
  | [] => .error (.before .endInString [])
  | c :: rest =>
    if c = '"' then .ok ((), rest)
    else if c = '\\' then
      match rest with
      | [] => .error (.before .endInString [])
      | e :: rest =>
        if (shortEscape e).isSome then skipString rest
        else if e ≠ 'u' then .error (.on .badEscape (e :: rest))
        else
          match rest with
          | a :: b :: c :: d :: rest =>
            match Text.Hexadecimal.quad a b c d with
            | none => .error (hexFault (a :: b :: c :: d :: rest))
            | some _ => skipString rest
          | rest => .error (hexFault rest)
    else if c.toNat < 32 then .error (.before .control (c :: rest))
    else skipString rest

/-- Passes a key and the colon behind it. -/
def skipKey : Reader Unit := fun cs =>
  match skipBlanks cs with
  | [] => .error (.on .endInObject [])
  | c :: rest =>
    if c = '"' then
      match skipString rest with
      | .error f => .error f
      | .ok (_, rest) => colon rest
    else .error (.on .keyNotString (c :: rest))

mutual

/-- Passes a value; `fuel` bounds the steps. -/
def skipValueUpTo : Nat → Reader Unit
  | 0, cs => .error (.on .endInValue cs)
  | fuel + 1, cs =>
    match skipBlanks cs with
    | [] => .error (.on .endInValue [])
    | c :: rest =>
      if c = '[' then skipItems fuel true rest
      else if c = '\x7b' then skipMembers fuel true rest
      else if c = 'n' then word () "ull".toList rest
      else if c = 't' then word () "rue".toList rest
      else if c = 'f' then word () "alse".toList rest
      else if c = '-' then skipNumber rest
      else if c.isDigit then skipNumber (c :: rest)
      else if c = '"' then skipString rest
      else .error (.on .noValue (c :: rest))

/-- Passes the items that are left and the closing bracket. -/
def skipItems : Nat → Bool → Reader Unit
  | 0, _, cs => .error (.on .endInArray cs)
  | fuel + 1, first, cs =>
    match skipBlanks cs with
    | [] => .error (.on .endInArray [])
    | c :: rest =>
      if c = ']' then .ok ((), rest)
      else if first || c = ',' then
        match skipValueUpTo fuel (if first then c :: rest else rest) with
        | .error f => .error f
        | .ok (_, rest) => skipItems fuel false rest
      else .error (.on .noItemEnd (c :: rest))

/-- Passes the members that are left and the closing bracket. -/
def skipMembers : Nat → Bool → Reader Unit
  | 0, _, cs => .error (.on .endInObject cs)
  | fuel + 1, first, cs =>
    match skipBlanks cs with
    | [] => .error (.on .endInObject [])
    | c :: rest =>
      if c = '\x7d' then .ok ((), rest)
      else if first || c = ',' then
        match skipKey (if first then c :: rest else rest) with
        | .error f => .error f
        | .ok (_, rest) =>
          match skipValueUpTo fuel rest with
          | .error f => .error f
          | .ok (_, rest) => skipMembers fuel false rest
      else .error (.on .noMemberEnd (c :: rest))

end

/-- Passes a value. Two steps take a character at least, so there are enough of them. -/
def skipValue : Reader Unit := fun cs => skipValueUpTo (2 * cs.length + 2) cs

end WidgetForge.Json
