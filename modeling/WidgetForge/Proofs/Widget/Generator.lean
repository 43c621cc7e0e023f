import WidgetForge.Proofs.Widget.Script

/-!
# One generator for many scripts

A generator writes into a buffer, and what the buffer held before would stand before the next script
(`text_generate`). Handing a script over empties it. So between two scripts the buffer is empty,
whatever has been written before, and a generator that is used again writes what a fresh one writes.
-/

namespace WidgetForge.Widget.Generator

variable {g : Generator}

/-- The generators that there are between two scripts. -/
inductive Reachable : Generator → Prop where
  /-- A generator has written nothing at first. -/
  | fresh : Reachable fresh
  /-- It writes one more script. -/
  | generate {g : Generator} (r : Request) (styles : StyleMapping) :
      Reachable g → Reachable (g.generate r styles).2

/-! ### One script -/

/-- What a generator holds stands before the script that it writes next. -/
theorem text_generate (g : Generator) (r : Request) (styles : StyleMapping) :
    (g.generate r styles).1.text = g.buffer ++ (Artifact.of r styles).text := by
  rw [Artifact.text_of]
  exact buffer_foldl_push g (Script.pieces r styles)

/-- So it writes what a fresh one writes exactly if it holds nothing. -/
theorem generate_eq_iff (r : Request) (styles : StyleMapping) :
    (g.generate r styles).1 = Artifact.of r styles ↔ g.buffer = "" := by
  constructor
  · intro h
    have htext := congrArg String.toList (text_generate g r styles)
    rw [h, String.toList_append, List.self_eq_append_left] at htext
    exact String.toList_eq_nil_iff.mp htext
  · intro h
    have htext := text_generate g r styles
    rw [h, String.empty_append] at htext
    exact congrArg Artifact.mk htext

/-- A script that has been handed over is not kept. -/
theorem buffer_generate (g : Generator) (r : Request) (styles : StyleMapping) :
    (g.generate r styles).2.buffer = "" := rfl

/-! ### Many scripts -/

/-- Between two scripts a generator holds nothing. -/
theorem Reachable.buffer (h : Reachable g) : g.buffer = "" := by
  cases h with
  | fresh => rfl
  | generate r styles _ => exact buffer_generate _ r styles

theorem Reachable.generateAll (h : Reachable g) (widgets : List (Request × StyleMapping)) :
    Reachable (g.generateAll widgets).2 := by
  induction widgets generalizing g with
  | nil => exact h
  | cons widget widgets ih => exact ih (h.generate widget.1 widget.2)

/-- A generator that is used again writes the scripts that fresh ones write. -/
theorem Reachable.scripts (h : Reachable g) (widgets : List (Request × StyleMapping)) :
    (g.generateAll widgets).1 = widgets.map fun widget => Artifact.of widget.1 widget.2 := by
  induction widgets generalizing g with
  | nil => rfl
  | cons widget widgets ih =>
    have hfirst := (generate_eq_iff widget.1 widget.2).mpr h.buffer
    have hrest := ih (h.generate widget.1 widget.2)
    rw [List.map_cons, ← hfirst, ← hrest]
    rfl

/-- **The scripts of one generator do not mix**: each is the one that a fresh generator writes,
before and after each of them the buffer is empty, and while one is written the buffer holds the
pieces of this one only. -/
theorem scripts_stay_apart (h : Reachable g) (widgets : List (Request × StyleMapping)) :
    (g.generateAll widgets).1 =
      widgets.map (fun widget => (fresh.generate widget.1 widget.2).1) ∧
    ∀ n, Reachable (g.generateAll (widgets.take n)).2 ∧
      (g.generateAll (widgets.take n)).2.buffer = "" ∧
      ∀ (r : Request) (styles : StyleMapping) (written : Nat),
        (((Script.pieces r styles).take written).foldl push
          (g.generateAll (widgets.take n)).2).buffer =
            String.join ((Script.pieces r styles).take written) := by
  refine ⟨h.scripts widgets, fun n => ?_⟩
  have hreached := h.generateAll (widgets.take n)
  refine ⟨hreached, hreached.buffer, fun r styles written => ?_⟩
  rw [buffer_foldl_push, hreached.buffer, String.empty_append]

/-- Three widgets, of which the second has no styles. -/
def mixed : List (Request × StyleMapping) :=
  [(⟨"date", 1000, "top: 10px;", "<p>\x7bdata\x7d</p>", ""⟩, .ofList [("a", "color: red;")]),
    (⟨"uptime", 5000, "left: 0;", "<b>\x7bdata\x7d</b>", ""⟩, .empty),
    (⟨"date", 1000, "top: 10px;", "<p>\x7bdata\x7d</p>", ""⟩, .ofList [("b", "")])]

theorem scripts_stay_apart_again :
    Reachable (fresh.generateAll mixed).2 ∧
    ((fresh.generateAll mixed).2.generateAll mixed).1 = (fresh.generateAll mixed).1 := by
  have hused : Reachable (fresh.generateAll mixed).2 := Reachable.fresh.generateAll mixed
  refine ⟨hused, ?_⟩
  rw [(scripts_stay_apart hused mixed).1, (scripts_stay_apart .fresh mixed).1]

end WidgetForge.Widget.Generator
