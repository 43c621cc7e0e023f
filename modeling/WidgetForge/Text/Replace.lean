/-!
# Replacing a text in a text

Occurrences are found from left to right, each search going on behind the last one found, and every
occurrence gives way to the new text; the new text itself is not searched.
-/

namespace WidgetForge.Text

/-- The text with each occurrence of `old` replaced. The first `skip` characters belong to an
occurrence already replaced. -/
def replaceFrom (old new : List Char) (skip : Nat) : List Char → List Char
  | [] => []
  | c :: rest =>
    match skip with
    | skip + 1 => replaceFrom old new skip rest
    | 0 =>
      if old.isPrefixOf (c :: rest) then new ++ replaceFrom old new (old.length - 1) rest
      else c :: replaceFrom old new 0 rest

/-- The text with each occurrence of `old`, which is not empty, replaced by `new`. -/
def replaceAll (s old new : String) : String :=
  String.ofList (replaceFrom old.toList new.toList 0 s.toList)

end WidgetForge.Text
