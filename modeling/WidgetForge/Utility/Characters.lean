/-!
# Kinds of characters

The kinds of octets that programs tell apart. Octets beyond the first 128 belong to none.
-/

namespace WidgetForge.Utility

/-- Whether a character can be seen. -/
def isVisible (c : Char) : Bool := ' ' ≤ c && c ≤ '~'

/-- Whether a character stands between words. -/
def isSpace (c : Char) : Bool := c = ' ' || ('\t' ≤ c && c ≤ '\r')

/-- Whether a character is a blank within a line. -/
def isBlank (c : Char) : Bool := c = ' ' || c = '\t'

/-- The kinds by their names. -/
def characterKinds : List (String × (Char → Bool)) :=
  [("alpha", Char.isAlpha), ("digit", Char.isDigit), ("alnum", Char.isAlphanum),
    ("upper", Char.isUpper), ("lower", Char.isLower), ("space", isSpace), ("blank", isBlank),
    ("punct", fun c => isVisible c && c ≠ ' ' && !c.isAlphanum), ("print", isVisible),
    ("graph", fun c => isVisible c && c ≠ ' '),
    ("cntrl", fun c => c < ' ' || c = Char.ofNat 127),
    ("xdigit", fun c => c.isDigit || ('a' ≤ c && c ≤ 'f') || ('A' ≤ c && c ≤ 'F'))]

/-- All octets as characters. -/
def allOctets : List Char := (List.range 256).map Char.ofNat

/-- What may stand in brackets. -/
inductive Member where
  /-- The characters from one to another. -/
  | range (first last : Char)
  /-- The characters of a class. -/
  | kind (name : String)
  deriving DecidableEq

namespace Member

/-- Whether a character is meant. -/
def holds (c : Char) : Member → Bool
  | .range first last => first ≤ c && c ≤ last
  | .kind name => (characterKinds.lookup name).any fun test => test c

end Member

end WidgetForge.Utility
