import Mathlib.Data.List.Find
import WidgetForge.Proofs.Text.Overlap
import WidgetForge.Widget.StyleMapping

/-!
# Which style variable counts as unused

A strict compiler refuses a widget with the first style variable that the markup does not use. The
names may be any texts. A name counts as used if the search for it meets a place where it stands
alone; for a name that does not recur this is any place where it stands alone, and a name that
recurs may be reported though it stands alone in the markup.
-/

namespace WidgetForge.Widget

open Text

/-- `IsFirst p xs found`: of the things `xs`, `found` is the first one that has the property `p`, or
none if none has it. -/
inductive IsFirst {α : Type} (p : α → Prop) : List α → Option α → Prop where
  /-- One has it, and those before it have it not. -/
  | found {before behind : List α} {x : α} :
      p x → (∀ y ∈ before, ¬ p y) → IsFirst p (before ++ x :: behind) (some x)
  /-- None has it. -/
  | missing {xs : List α} : (∀ y ∈ xs, ¬ p y) → IsFirst p xs none

theorem IsFirst.holds {α : Type} {p : α → Prop} {xs : List α} {x : α}
    (h : IsFirst p xs (some x)) : p x := by
  cases h with
  | found hx _ => exact hx

theorem isFirst_find? {α : Type} {p : α → Bool} {q : α → Prop} {xs : List α}
    (h : ∀ x ∈ xs, p x = true ↔ q x) : IsFirst q xs (xs.find? p) := by
  cases hfound : xs.find? p with
  | none =>
    refine .missing fun y hy hq => ?_
    exact List.find?_eq_none.mp hfound y hy ((h y hy).mpr hq)
  | some x =>
    obtain ⟨hx, before, behind, rfl, hbefore⟩ := List.find?_eq_some_iff_append.mp hfound
    refine .found ((h x (by simp)).mp hx) fun y hy hq => ?_
    have hnot := hbefore y hy
    rw [(h y (List.mem_append_left _ hy)).mpr hq] at hnot
    exact nomatch hnot

namespace StyleMapping

theorem unused_iff {markup name : String} :
    (!references markup name) = true ↔ ¬ MetAlone markup name := by
  rw [Bool.not_eq_true', ← Bool.not_eq_true, references_iff_metAlone]

/-- **Which style variable counts as unused**: the first one whose name the search meets nowhere
alone. If no name recurs, this is the first one whose name stands nowhere alone in the markup. Any
name that recurs is reported in some markup where it does stand alone. -/
theorem firstUnused_isFirst (m : StyleMapping) (markup : String) :
    IsFirst (fun name => ¬ MetAlone markup name) m.names (m.firstUnused markup) ∧
    ((∀ name ∈ m.names, ¬ Recurs name.toList) →
      IsFirst (fun name => ¬ StandsAlone markup name) m.names (m.firstUnused markup)) ∧
    ∀ name body, Recurs name.toList → ∃ markup', StandsAlone markup' name ∧
      (ofList [(name, body)]).firstUnused markup' = some name := by
  refine ⟨isFirst_find? fun name _ => unused_iff, fun hnames => ?_, fun name body hname => ?_⟩
  · refine isFirst_find? fun name hmem => ?_
    rw [unused_iff, metAlone_iff_standsAlone (hnames name hmem)]
  · obtain ⟨markup', halone, hmissed⟩ := exists_standsAlone_not_metAlone hname
    refine ⟨markup', halone, ?_⟩
    have hunused := unused_iff.mpr hmissed
    have hnames : (ofList [(name, body)]).names = [name] := rfl
    rw [firstUnused, hnames, List.find?_cons, hunused]

/-- A mapping with a name that has a hyphen and one that does not recur, though it overlaps
itself. -/
def hyphened : StyleMapping := ofList [("row-item", ""), ("aa", "color: red;")]

theorem firstUnused_isFirst_hyphened :
    (∀ name ∈ hyphened.names, ¬ Recurs name.toList) ∧
    IsFirst (fun name => ¬ StandsAlone "\x7brow-item\x7d \x7baaa\x7d" name) hyphened.names
      (hyphened.firstUnused "\x7brow-item\x7d \x7baaa\x7d") := by
  have hnames : ∀ name ∈ hyphened.names, ¬ Recurs name.toList := by decide +kernel
  exact ⟨hnames, (firstUnused_isFirst hyphened _).2.1 hnames⟩

/-- A mapping with a name that recurs. -/
def recurring : StyleMapping := ofList [("row-row", "color: red;")]

/-- A markup that holds this name twice, with an overlap. Only the second time it stands alone. -/
def rows : String := "<p className=\x7bnarrow-row-row\x7d>\x7bdata\x7d</p>"

/-- **A name that stands alone may count as unused.** -/
theorem recurring_reported : StandsAlone rows "row-row" ∧
    recurring.firstUnused rows = some "row-row" ∧
    ¬ IsFirst (fun name => ¬ StandsAlone rows name) recurring.names
      (recurring.firstUnused rows) := by
  have halone : StandsAlone rows "row-row" := ⟨by decide, 21, by decide +kernel⟩
  have hreported : recurring.firstUnused rows = some "row-row" := by decide +kernel
  refine ⟨halone, hreported, ?_⟩
  rw [hreported]
  exact fun hfirst => hfirst.holds halone

end StyleMapping

end WidgetForge.Widget
