import WidgetForge.Utility.Characters

/-!
# Words in complaints

A word in a complaint is put in quotes. Programs name files in such a way that a shell would read
the name again, and leave the quotes out where a shell needs none; other words they show with
escapes.
-/

namespace WidgetForge.Utility.Quoting

/-- The letters for control characters behind a backslash. -/
def letters : List (Nat × Char) :=
  [(7, 'a'), (8, 'b'), (9, 't'), (10, 'n'), (11, 'v'), (12, 'f'), (13, 'r')]

/-- The escape for a character that cannot be seen. -/
def escaped (c : Char) : List Char :=
  match letters.lookup c.toNat with
  | some letter => ['\\', letter]
  | none =>
    let n := c.toNat
    ['\\', Char.ofNat (48 + n / 64 % 8), Char.ofNat (48 + n / 8 % 8), Char.ofNat (48 + n % 8)]

/-- A word in quotes, with escapes. -/
def quoted (word : String) : String :=
  let inside := word.toList.flatMap fun c =>
    if c = '\'' then ['\\', '\'']
    else if c = '\\' then ['\\', '\\']
    else if isVisible c then [c]
    else escaped c
  String.ofList ('\'' :: inside ++ ['\''])

/-- Whether a character means something to a shell. -/
def isSpecial (c : Char) : Bool := " !\"$&()*;<=>[^`|?\\:'".toList.contains c || !isVisible c

/-- Whether a word must be quoted for a shell to read it. -/
def isNeeded (word : String) : Bool :=
  match word.toList with
  | [] => true
  | ['\x7b'] => true
  | ['\x7d'] => true
  | '#' :: _ => true
  | '~' :: _ => true
  | cs => cs.any isSpecial

/-- Whether a character stands for itself between double quotes too. -/
def isPlain (c : Char) : Bool :=
  " '%+,-./:]_#~".toList.contains c || c.isAlphanum

/-- The characters of a word between single quotes; `escaping` tells that the last one was written
as an escape. -/
def insideQuotes : Bool → List Char → List Char
  | _, [] => []
  | escaping, c :: rest =>
    if c = '\'' then '\'' :: '\\' :: '\'' :: '\'' :: insideQuotes false rest
    else if isVisible c then
      (if escaping then ['\'', '\'', c] else [c]) ++ insideQuotes false rest
    else (if escaping then [] else ['\'', '$', '\'']) ++ escaped c ++ insideQuotes true rest

/-- A word in the quotes by which a shell reads it. -/
def forShell (word : String) : String :=
  let cs := word.toList
  if cs.contains '\'' && cs.all isPlain then "\"" ++ word ++ "\""
  else String.ofList ('\'' :: insideQuotes false cs ++ ['\''])

/-- A word in quotes if a shell needs them. -/
def shown (word : String) : String := if isNeeded word then forShell word else word

end WidgetForge.Utility.Quoting
