import WidgetForge.Decimal.Rounded
import WidgetForge.Utility.Escape
import WidgetForge.Utility.Quoting

/-!
# Printing by a format

A format is a text in which escapes stand for octets and a percent sign begins a place for an
argument. It is used again as long as there are arguments left. Two programs do this, which know
different escapes and complain in different words.
-/

namespace WidgetForge.Utility.Format

open Text

/-- Which program prints. -/
inductive Dialect where
  /-- The one that is part of a shell. -/
  | shell
  /-- The one that is a program of its own. -/
  | tool
  deriving DecidableEq

namespace Dialect

/-- The escapes that are known in a format. -/
def inFormat : Dialect → Escapes
  | .shell => ⟨false, false, false, true, false⟩
  | .tool => ⟨true, true, true, true, false⟩

/-- The escapes that are known in an argument. -/
def inArgument : Dialect → Escapes
  | .shell => ⟨false, false, true, true, true⟩
  | .tool => ⟨true, true, true, true, true⟩

/-- How a word is named in a complaint. -/
def name (word : String) : Dialect → String
  | .shell => word
  | .tool => Quoting.quoted word

end Dialect

/-- What has been printed. -/
structure Printed where
  /-- The text, last character first. -/
  text : List Char
  /-- The complaints, last first. -/
  complaints : List String
  /-- Whether a complaint was about a failure. -/
  failed : Bool
  /-- The arguments that are left. -/
  arguments : List String
  /-- Whether output goes on. -/
  goes : Bool
  /-- Whether the format cannot be used. -/
  broken : Bool

namespace Printed

/-- Adds characters. -/
def add (p : Printed) (cs : List Char) : Printed := { p with text := cs.reverse ++ p.text }

/-- Complains of a failure. -/
def complain (p : Printed) (text : String) : Printed :=
  { p with complaints := text :: p.complaints, failed := true }

/-- Takes the next argument, which is empty if there is none. -/
def next (p : Printed) : String × Printed :=
  (p.arguments.headD "", { p with arguments := p.arguments.drop 1 })

end Printed

/-- A place for an argument. -/
structure Place where
  /-- The letters that change how the argument is written. -/
  flags : List Char
  /-- How many characters it takes at least. -/
  width : Nat
  /-- How many characters or digits are written. -/
  precision : Option Nat
  /-- The letter that says what is written. -/
  letter : Char

/-- A text on one side of the spaces that fill a place. -/
def Place.pad (s : Place) (cs : List Char) : List Char :=
  let space := List.replicate (s.width - cs.length) ' '
  if s.flags.contains '-' then cs ++ space else space ++ cs

/-- A number with its sign or its mark, filled with spaces or zeros. -/
def Place.number (s : Place) (mark digits : List Char) (zeros : Bool) : List Char :=
  if s.flags.contains '0' && !s.flags.contains '-' && zeros then
    mark ++ List.replicate (s.width - mark.length - digits.length) '0' ++ digits
  else s.pad (mark ++ digits)

/-- The sign of a number. -/
def Place.sign (s : Place) (negative : Bool) : List Char :=
  if negative then ['-']
  else if s.flags.contains '+' then ['+']
  else if s.flags.contains ' ' then [' ']
  else []

/-- The digits of a number, at least as many as the precision asks for. -/
def Place.digits (s : Place) (base n : Nat) : List Char :=
  let digits := Nat.toDigits base n
  match s.precision with
  | none => digits
  | some count => if n = 0 && count = 0 then []
      else List.replicate (count - digits.length) '0' ++ digits

/-- An integer as a place asks for it. -/
def Place.integer (s : Place) (n : Int) : List Char :=
  let word : Nat := (n % 0x10000000000000000).toNat
  let marked := s.flags.contains '#' && word ≠ 0
  let zeros := s.precision.isNone
  match s.letter with
  | 'u' => s.number [] (s.digits 10 word) zeros
  | 'o' =>
    let digits := s.digits 8 word
    s.number [] (if s.flags.contains '#' && digits.head? ≠ some '0' then '0' :: digits else digits)
      zeros
  | 'x' => s.number (if marked then ['0', 'x'] else []) (s.digits 16 word) zeros
  | 'X' =>
    s.number (if marked then ['0', 'X'] else []) ((s.digits 16 word).map Char.toUpper) zeros
  | _ => s.number (s.sign (n < 0)) (s.digits 10 n.natAbs) zeros

/-! ### Numbers in arguments -/

/-- What the front of an argument writes. -/
structure Number where
  /-- The number. -/
  value : Int
  /-- What stands behind it. -/
  rest : List Char
  /-- Whether there are any digits. -/
  present : Bool

/-- Splits a sign off a text. -/
def signOf : List Char → Bool × List Char
  | '-' :: rest => (true, rest)
  | '+' :: rest => (false, rest)
  | cs => (false, cs)

/-- The digits of a base at the front of a text. -/
def digitsAt (base : Nat) (cs : List Char) : Nat × Nat × List Char :=
  let digits := cs.takeWhile fun c => (Hexadecimal.value c).any (· < base)
  (digits.foldl (fun n c => n * base + (Hexadecimal.value c).getD 0) 0, digits.length,
    cs.drop digits.length)

/-- The integer at the front of a text, whose base its first digits give. -/
def integerAt (text : List Char) : Number :=
  let (negative, cs) := signOf (text.dropWhile isSpace)
  let done (found : Nat × Nat × List Char) : Number :=
    ⟨if negative then -(found.1 : Int) else found.1, found.2.2, 0 < found.2.1⟩
  match cs with
  | '0' :: x :: d :: rest =>
    if (x = 'x' || x = 'X') && (Hexadecimal.value d).isSome then done (digitsAt 16 (d :: rest))
    else done (digitsAt 8 cs)
  | '0' :: _ => done (digitsAt 8 cs)
  | _ => done (digitsAt 10 cs)

/-- The decimal number at the front of a text, without its sign, and what stands behind it. -/
def decimalAt (cs : List Char) : Option (Decimal.Rounded.Quotient × List Char) :=
  let (whole, n, rest) := digitsAt 10 cs
  let (all, places, total, rest) : Nat × Nat × Nat × List Char :=
    match rest with
    | '.' :: more =>
      let (fraction, k, rest) := digitsAt 10 more
      if n + k = 0 then (whole, 0, 0, '.' :: more)
      else (whole * Decimal.Rounded.tenTo k + fraction, k, n + k, rest)
    | rest => (whole, 0, n, rest)
  if total = 0 then none
  else
    let value (e : Int) : Decimal.Rounded.Quotient :=
      Decimal.Rounded.Quotient.scale 10 ⟨all, Decimal.Rounded.tenTo places⟩
        (if e < -5000 then -5000 else if 5000 < e then 5000 else e)
    match rest with
    | e :: more =>
      let (negative, digits) := signOf more
      let (exponent, k, behind) := digitsAt 10 digits
      if (e = 'e' || e = 'E') && 0 < k then
        some (value (if negative then -(exponent : Int) else exponent), behind)
      else some (value 0, rest)
    | [] => some (value 0, [])

/-- Complains of what was not read of an argument. -/
def checked (d : Dialect) (word : String) (present : Bool) (rest : List Char) (p : Printed) :
    Printed :=
  if !present then
    if word.isEmpty then p
    else
      p.complain (d.name word ++ (if d = .shell then ": expected numeric value"
        else ": expected a numeric value"))
  else if rest.isEmpty then p
  else
    p.complain (d.name word ++ (if d = .shell then ": not completely converted"
      else ": value not completely converted"))

/-- The number in an argument that begins with a quote, which is the code of the next character. -/
def codeOf (d : Dialect) (word : String) (p : Printed) : Option (Nat × Printed) :=
  match word.toList with
  | q :: rest =>
    if q = '\'' || q = '"' then
      match rest with
      | [] => some (0, if d = .shell then p else checked d word false [] p)
      | [c] => some (c.toNat, p)
      | c :: more =>
        some (c.toNat,
          if d = .shell then p
          else
            { p with complaints := ("warning: " ++ String.ofList more ++
              ": character(s) following character constant have been ignored") :: p.complaints })
    else none
  | [] => none

/-- Writes an integer. -/
def putInteger (d : Dialect) (s : Place) (p : Printed) : Printed :=
  let (word, p) := p.next
  match codeOf d word p with
  | some (n, p) => p.add (s.integer n)
  | none =>
    let n := integerAt word.toList
    let signed := s.letter = 'd' || s.letter = 'i'
    let least : Int := if signed then -0x8000000000000000 else -0xffffffffffffffff
    let most : Int := if signed then 0x7fffffffffffffff else 0xffffffffffffffff
    let value := if n.value < least then (if signed then least else most)
      else if most < n.value then most else n.value
    let p :=
      if value ≠ n.value then p.complain (d.name word ++ ": Numerical result out of range")
      else checked d word n.present n.rest p
    p.add (s.integer value)

/-- Writes a number with a fraction. -/
def putFraction (d : Dialect) (s : Place) (p : Printed) : Printed :=
  let (word, p) := p.next
  let lower := s.letter.toLower
  let keep := s.flags.contains '#'
  let mark := if s.letter.isUpper then 'E' else 'e'
  let write (negative : Bool) (q : Decimal.Rounded.Quotient) : List Char :=
    let q := q.toBinary (if d = .shell then 53 else 64)
    let digits :=
      if lower = 'f' then Decimal.Rounded.fixed q (s.precision.getD 6) keep
      else if lower = 'e' then Decimal.Rounded.scientific q (s.precision.getD 6) keep mark
      else Decimal.Rounded.general q (s.precision.getD 6) keep mark
    s.number (s.sign negative) digits true
  match codeOf d word p with
  | some (n, p) => p.add (write false ⟨n, 1⟩)
  | none =>
    let (negative, cs) := signOf (word.toList.dropWhile isSpace)
    match decimalAt cs with
    | some (q, rest) => (checked d word true rest p).add (write negative q)
    | none => (checked d word false [] p).add (write false ⟨0, 1⟩)

/-! ### Places -/

/-- A number of characters that a format gives, or an asterisk that leaves it to an argument: the
number, if it is not negative, and whether it is negative. -/
def measure (p : Printed) : List Char → Option Nat × Bool × List Char × Printed
  | '*' :: rest =>
    let (word, p) := p.next
    let n := (integerAt word.toList).value
    (some n.natAbs, n < 0, rest, p)
  | cs =>
    let (n, k, rest) := digitsAt 10 cs
    (if k = 0 then none else some n, false, rest, p)

/-- Reads a place behind its percent sign; the letter may be missing. -/
def placeAt (d : Dialect) (p : Printed) (cs : List Char) :
    List Char × Nat × Option Nat × List Char × Printed :=
  let flags := cs.takeWhile fun c => "#-+ 0".toList.contains c
  let (width, negative, rest, p) := measure p (cs.drop flags.length)
  let flags := if negative then '-' :: flags else flags
  let (precision, rest, p) : Option Nat × List Char × Printed :=
    match rest with
    | '.' :: more =>
      let (n, negative, rest, p) := measure p more
      (if negative then none else some (n.getD 0), rest, p)
    | rest => (none, rest, p)
  let rest :=
    if d = .tool then rest.dropWhile fun c => "hlLqjzt".toList.contains c else rest
  (flags, width.getD 0, precision, rest, p)

/-- Gives the format up. -/
def giveUp (d : Dialect) (p : Printed) (begun left : List Char) : Printed :=
  let shown := "%" ++ String.ofList (begun.take (begun.length - left.length + 1))
  let p := { p with broken := true, goes := false }
  match d with
  | .shell =>
    p.complain (if left.isEmpty then "missing format character" else shown ++ ": invalid directive")
  | .tool => p.complain (shown ++ ": invalid conversion specification")

/-- Writes an argument into a place. -/
def fill (d : Dialect) (p : Printed) (cs : List Char) : Printed × List Char :=
  let (flags, width, precision, rest, q) := placeAt d p cs
  match rest with
  | [] => (giveUp d p cs [], [])
  | letter :: behind =>
    let s : Place := ⟨flags, width, precision, letter⟩
    let plain := flags.all (· = '-')
    let text (f : String → List Char) : Printed × List Char :=
      let (word, q) := q.next
      (q.add (s.pad (f word)), behind)
    if "diouxX".toList.contains letter then (putInteger d s q, behind)
    else if "feEgGF".toList.contains letter then (putFraction d s q, behind)
    else if letter = 's' && (d = .shell || plain) then
      text fun word => precision.elim word.toList fun n => word.toList.take n
    else if letter = 'c' && (d = .shell || (plain && precision.isNone)) then
      text fun word => [word.toList.headD (Char.ofNat 0)]
    else if letter = 'b' && (d = .shell || (flags.isEmpty && width = 0 && precision.isNone)) then
      let (word, q) := q.next
      let (shown, goes) := d.inArgument.resolve word
      let cs := precision.elim shown.toList fun n => shown.toList.take n
      ({ q.add (s.pad cs) with goes := goes }, behind)
    else (giveUp d p cs rest, [])

/-- Uses a format once; `fuel` bounds the steps. -/
def once (d : Dialect) : Nat → List Char → Printed → Printed
  | 0, _, p => p
  | _, [], p => p
  | fuel + 1, c :: rest, p =>
    if !p.goes then p
    else if c = '\\' then
      match d.inFormat.read rest with
      | (none, _) => { p with goes := false }
      | (some cs, rest) => once d fuel rest (p.add cs)
    else if c = '%' then
      match rest with
      | '%' :: rest => once d fuel rest (p.add ['%'])
      | rest =>
        let (p, rest) := fill d p rest
        once d fuel rest p
    else once d fuel rest (p.add [c])

/-- Uses a format until no arguments are left, or until it takes none; `fuel` bounds the uses. -/
def again (d : Dialect) (format : List Char) : Nat → Printed → Printed
  | 0, p => p
  | fuel + 1, p =>
    let q := once d (format.length + 1) format p
    if !q.goes || q.arguments.isEmpty || q.arguments.length = p.arguments.length then q
    else again d format fuel q

/-- Prints arguments by a format. -/
def print (d : Dialect) (format : String) (arguments : List String) : Printed :=
  again d format.toList (arguments.length + 1) ⟨[], [], false, arguments, true, false⟩

end WidgetForge.Utility.Format
