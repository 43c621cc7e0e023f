import Mathlib.Data.List.Basic
import WidgetForge.Widget.Literal

/-!
# Escaped texts read back

What `Literal.escape` writes, `Literal.read` reads: it decodes each escape to the character that was
escaped and stops at the first quote that no escape belongs to. So nothing in a text can end the
literal that it stands in, and nothing of what follows the literal is taken for a part of it.
-/

namespace WidgetForge.Widget.Literal

/-- One escaped character reads back, whatever follows it. -/
theorem read_escapeChar (c : Char) (tail : List Char) :
    read (escapeChar c ++ tail) = (read tail).map fun (text, left) => (c :: text, left) := by
  unfold escapeChar
  split_ifs with backslash quote feed ret line paragraph
  · subst backslash; rfl
  · subst quote; rfl
  · subst feed; rfl
  · subst ret; rfl
  · subst line; rfl
  · subst paragraph; rfl
  · -- an ordinary character: none of the patterns of `read` before the last one applies
    rw [List.singleton_append, read]
    · simp [backslash, endsLine, feed, ret, line, paragraph]
    all_goals simp_all

/-- An escaped text reads back up to the quote behind it. -/
theorem read_escapeChars (cs rest : List Char) :
    read (escapeChars cs ++ '"' :: rest) = some (cs, rest) := by
  induction cs with
  | nil => rfl
  | cons c cs ih =>
    have hcons : escapeChars (c :: cs) = escapeChar c ++ escapeChars cs := rfl
    rw [hcons, List.append_assoc, read_escapeChar, ih]
    rfl

end WidgetForge.Widget.Literal
