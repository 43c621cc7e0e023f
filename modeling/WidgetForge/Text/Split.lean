/-!
# Cutting a text at a character

There is one more piece than there are cuts, so a text without the character is one piece, and a
text that ends with it has an empty last piece.
-/

namespace WidgetForge.Text

/-- The pieces between the occurrences of a character. -/
def split (mark : Char) : List Char → List (List Char)
  | [] => [[]]
  | c :: rest =>
    if c = mark then [] :: split mark rest
    else
      match split mark rest with
      | [] => [[c]]
      | piece :: pieces => (c :: piece) :: pieces

end WidgetForge.Text
