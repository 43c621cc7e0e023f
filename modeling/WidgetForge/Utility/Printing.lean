import WidgetForge.Utility.Format
import WidgetForge.Utility.Options

/-!
# Programs that print what they are told
-/

namespace WidgetForge.Utility

open Machine Text

/-- Only ends. -/
def ending (status : Nat) : Program := fun _ => return status

/-- Prints its arguments in a line. -/
def echo : Program := fun p => do
  let isOption (w : String) : Bool :=
    match w.toList with
    | '-' :: letters => !letters.isEmpty && letters.all fun c => c = 'n' || c = 'e' || c = 'E'
    | _ => false
  let letters := (p.arguments.takeWhile isOption).flatMap fun w => w.toList.drop 1
  let text := " ".intercalate (p.arguments.dropWhile isOption)
  let lineEnd := if letters.contains 'n' then "" else "\n"
  match letters.reverse.find? fun c => c = 'e' || c = 'E' with
  | some 'e' =>
    let known : Escapes := ⟨false, true, true, false, true⟩
    let (text, goes) := known.resolve text
    p.print (text ++ if goes then lineEnd else "")
  | _ => p.print (text ++ lineEnd)
  return 0

/-- Prints its arguments by a format. -/
def printf : Program := fun p => do
  let arguments := if p.arguments.head? = some "--" then p.arguments.drop 1 else p.arguments
  match arguments with
  | [] => misused p 1 "missing operand"
  | format :: rest =>
    let printed := Format.print .tool format rest
    for complaint in printed.complaints.reverse do
      p.report complaint
    if !printed.broken && printed.arguments.length = rest.length then
      match rest with
      | [] => pure ()
      | first :: _ =>
        p.report ("warning: ignoring excess arguments, starting with " ++
          Format.Dialect.name first .tool)
    p.print (String.ofList printed.text.reverse)
    return if printed.failed then 1 else 0

/-- Prints the path of the current folder. -/
def pwd : Program := fun p => do
  p.print (Octetwise.spread (← get).tree.herePath.text ++ "\n")
  return 0

/-- How many lines are printed without end before nobody reads on. -/
def endless : Nat := 2000

/-- Prints a line again and again. -/
def yes : Program := fun p => do
  let line := if p.arguments.isEmpty then "y" else " ".intercalate p.arguments
  p.print (String.join (List.replicate endless (line ++ "\n")))
  return 0

/-- The number that a word writes, perhaps with digits behind a point. -/
def sequenceNumber (word : String) : Option (Int × Nat) :=
  let (negative, cs) := Format.signOf word.toList
  let whole := cs.takeWhile Char.isDigit
  let rest := cs.drop whole.length
  let fraction : List Char :=
    match rest with
    | '.' :: more => more
    | _ => []
  let digits := whole ++ fraction
  if digits.isEmpty || !digits.all Char.isDigit || (rest.head?.any (· ≠ '.')) then none
  else
    let n := digits.foldl (fun (n : Nat) c => 10 * n + (c.toNat - 48)) 0
    some (if negative then -(n : Int) else n, fraction.length)

/-- A number of so many digits behind the point as a text. -/
def sequenceText (width places : Nat) (n : Int) : String :=
  let digits := Decimal.Rounded.pointed (Nat.toDigits 10 n.natAbs) places false
  let sign := if n < 0 then ['-'] else []
  String.ofList (sign ++ List.replicate (width - sign.length - digits.length) '0' ++ digits)

/-- The numbers from one to another in steps; `fuel` bounds how many. -/
def sequenceFrom (last step : Int) : Nat → Int → List Int
  | 0, _ => []
  | fuel + 1, n =>
    if (0 < step && last < n) || (step < 0 && n < last) then []
    else n :: sequenceFrom last step fuel (n + step)

/-- Prints numbers. -/
def seq : Program := fun p => do
  let isNumber (w : String) : Bool := (sequenceNumber w).isSome
  let options := p.arguments.takeWhile fun w => w.toList.head? = some '-' && !isNumber w
  let taken := if options.getLast? = some "-s" || options.getLast? = some "-f" then 1 else 0
  let options := p.arguments.take (options.length + taken)
  let o : Options := ⟨"w", "sf", [("separator", 's'), ("equal-width", 'w'), ("format", 'f')], false⟩
  match o.read options with
  | .error complaint => misused p 1 complaint
  | .ok g =>
    let words := p.arguments.drop options.length
    match words.find? fun w => !isNumber w with
    | some w => misused p 1 ("invalid floating point argument: " ++ Format.Dialect.name w .tool)
    | none =>
      let numbers := words.filterMap sequenceNumber
      let places := (numbers.dropLast ++ (if numbers.length = 1 then [] else numbers.drop
        (numbers.length - 1))).foldl (fun n w => max n w.2) 0
      let scaled := numbers.map fun w => w.1 * Int.ofNat (Decimal.Rounded.tenTo (places - w.2))
      let one : Int := Int.ofNat (Decimal.Rounded.tenTo places)
      let go (first step last : Int) : Act Nat := do
        let all := sequenceFrom last step 100000 first
        let width :=
          if g.has 'w' then all.foldl (fun n k => max n (sequenceText 0 places k).length) 0 else 0
        let text (n : Int) : String :=
          match g.value? 'f' with
          | some format => String.ofList
              (Format.print .tool format [sequenceText 0 places n]).text.reverse
          | none => sequenceText width places n
        if !all.isEmpty then
          p.print (((g.value? 's').getD "\n").intercalate (all.map text) ++ "\n")
        return 0
      match scaled with
      | [last] => go one one last
      | [first, last] => go first one last
      | [first, step, last] =>
        if step = 0 then
          misused p 1 ("invalid Zero increment value: " ++
            Format.Dialect.name (words.getD 1 "") .tool)
        else go first step last
      | [] => misused p 1 "missing operand"
      | _ => misused p 1 ("extra operand " ++ Format.Dialect.name (words.getD 3 "") .tool)

end WidgetForge.Utility
