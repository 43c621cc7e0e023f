import WidgetForge.Text.Hexadecimal

/-!
# String literals of scripts

A text is put between double quotes into a script. What would end or break the literal is escaped:
the quote, the backslash, and the four characters that end a line. `Literal.read` reads a literal as
a reader of scripts does.
-/

namespace WidgetForge.Widget.Literal

/-- The line separator. -/
def lineSeparator : Char := Char.ofNat 0x2028

/-- The paragraph separator. -/
def paragraphSeparator : Char := Char.ofNat 0x2029

/-- A character as it stands in a literal. -/
def escapeChar (c : Char) : List Char :=
  if c = '\\' then ['\\', '\\']
  else if c = '"' then ['\\', '"']
  else if c = '\n' then ['\\', 'n']
  else if c = '\r' then ['\\', 'r']
  else if c = lineSeparator then "\\u2028".toList
  else if c = paragraphSeparator then "\\u2029".toList
  else [c]

/-- Characters as they stand in a literal. -/
def escapeChars (cs : List Char) : List Char := cs.flatMap escapeChar

/-- A text as it stands in a literal. -/
def escape (s : String) : String := String.ofList (escapeChars s.toList)

/-! ### Reading -/

/-- The characters that end a line of a script. -/
def endsLine (c : Char) : Bool :=
  c = '\n' || c = '\r' || c = lineSeparator || c = paragraphSeparator

/-- Reads the rest of a literal behind its opening quote: the text that it stands for, and what
follows the closing quote. A line may not end inside a literal. -/
def read : List Char → Option (List Char × List Char)
  | [] => none
  | '"' :: rest => some ([], rest)
  | '\\' :: 'u' :: a :: b :: c :: d :: rest =>
    match Text.Hexadecimal.quad a b c d with
    | none => none
    | some e => (read rest).map fun (text, left) => (Char.ofNat e :: text, left)
  | '\\' :: 'n' :: rest => (read rest).map fun (text, left) => ('\n' :: text, left)
  | '\\' :: 'r' :: rest => (read rest).map fun (text, left) => ('\r' :: text, left)
  | '\\' :: '"' :: rest => (read rest).map fun (text, left) => ('"' :: text, left)
  | '\\' :: '\\' :: rest => (read rest).map fun (text, left) => ('\\' :: text, left)
  | c :: rest =>
    if c = '\\' || endsLine c then none
    else (read rest).map fun (text, left) => (c :: text, left)

end WidgetForge.Widget.Literal
