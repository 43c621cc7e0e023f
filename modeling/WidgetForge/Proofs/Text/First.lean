import Mathlib.Data.List.Basic

/-!
# The first occurrence of a text

A text may stand at several places in another. Where the first one is can be told without looking at
what follows it, if the text ends in a character that stands nowhere before.
-/

namespace WidgetForge.Text

/-- `mark` stands in `text` between `before` and `behind`, and nowhere nearer to the front. -/
structure FirstAt (mark text before behind : List Char) : Prop where
  split : text = before ++ mark ++ behind
  earliest : ∀ b c, text = b ++ mark ++ c → before.length ≤ b.length

/-- There is only one first occurrence. -/
theorem FirstAt.unique {mark text before behind before' behind' : List Char}
    (h : FirstAt mark text before behind) (h' : FirstAt mark text before' behind') :
    before = before' ∧ behind = behind' := by
  have hlen : before.length = before'.length :=
    Nat.le_antisymm (h.earliest _ _ h'.split) (h'.earliest _ _ h.split)
  have heq : before ++ (mark ++ behind) = before' ++ (mark ++ behind') := by
    rw [← List.append_assoc, ← List.append_assoc, ← h.split, ← h'.split]
  obtain ⟨hb, hr⟩ := List.append_inj heq hlen
  exact ⟨hb, List.append_cancel_left hr⟩

/-- A text that ends in a character which stands nowhere earlier in it is found right behind any
text in which it does not occur. -/
theorem firstAt_of_no_occurrence {before m : List Char} {last : Char} (hm : last ∉ m)
    (hbefore : ¬ m ++ [last] <:+: before) (behind : List Char) :
    FirstAt (m ++ [last]) (before ++ (m ++ [last]) ++ behind) before behind := by
  refine ⟨rfl, fun b c heq => ?_⟩
  by_contra hlt
  rcases Nat.lt_or_ge (b.length + m.length) before.length with hin | hout
  · -- an occurrence that ends inside `before` lies in it as a whole
    have hfirst : b ++ (m ++ [last]) <+: before ++ (m ++ [last]) ++ behind :=
      heq ▸ List.prefix_append _ _
    have hwhole : before <+: before ++ (m ++ [last]) ++ behind := by
      rw [List.append_assoc]
      exact List.prefix_append _ _
    have hle : (b ++ (m ++ [last])).length ≤ before.length := by simp; omega
    have hprefix := List.prefix_of_prefix_length_le hfirst hwhole hle
    exact hbefore ((List.suffix_append b _).isInfix.trans hprefix.isInfix)
  · -- any other earlier occurrence has its last character among those of `m`
    have hat : (before ++ (m ++ [last]) ++ behind)[b.length + m.length]? = some last := by
      simp [heq]
    rw [List.append_assoc, List.append_assoc, List.getElem?_append_right hout,
      List.getElem?_append_left (by omega)] at hat
    exact hm (List.mem_of_getElem? hat)

/-- It is found there in particular if its last character does not stand before it. -/
theorem firstAt_of_last {before m : List Char} {last : Char} (hbefore : last ∉ before)
    (hm : last ∉ m) (behind : List Char) :
    FirstAt (m ++ [last]) (before ++ (m ++ [last]) ++ behind) before behind :=
  firstAt_of_no_occurrence hm (fun h => hbefore (h.subset (by simp))) behind

/-- Two texts in which a mark does not occur are the same if they are the same with the mark and
more behind them. -/
theorem append_inj_of_no_occurrence {m a a' rest rest' : List Char} {last : Char} (hm : last ∉ m)
    (ha : ¬ m ++ [last] <:+: a) (ha' : ¬ m ++ [last] <:+: a')
    (h : a ++ (m ++ [last]) ++ rest = a' ++ (m ++ [last]) ++ rest') : a = a' ∧ rest = rest' :=
  (firstAt_of_no_occurrence hm ha rest).unique (h ▸ firstAt_of_no_occurrence hm ha' rest')

end WidgetForge.Text
