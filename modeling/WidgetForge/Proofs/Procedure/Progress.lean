import Mathlib.Data.List.Induction
import WidgetForge.Procedure.World

/-!
# Procedures that take their steps in turn with others

A procedure that is not alone takes each of its steps in the world as the others have left it.
`Left` follows it through the worlds of a whole run, in which it takes a step now and then.

Two procedures are alike if they take the same steps as long as they get the same replies. They
cannot be told apart by what they do to the world, only by their results.
-/

namespace WidgetForge.Procedure

variable {α β : Type}

/-- `Left ws p q`: of the procedure `p` there is `q` left after a run through the worlds `ws`, in
some of which it took a step. -/
inductive Left : List World → Procedure α → Procedure α → Prop
  | begin (p : Procedure α) : Left [] p p
  | wait {ws : List World} {p q : Procedure α} (w : World) : Left ws p q → Left (ws ++ [w]) p q
  | step {ws : List World} {p : Procedure α} {a : Step} {next : a.Reply → Procedure α} (w : World) :
      Left ws p (.step a next) → Left (ws ++ [w]) p (next (w.perform a).1)

/-- A procedure can begin at any time. -/
theorem Left.refl (ws : List World) (p : Procedure α) : Left ws p p := by
  induction ws using List.reverseRecOn with
  | nil => exact .begin p
  | append_singleton ws w ih => exact .wait w ih

theorem map_eq_step {p : Procedure α} {f : α → β} {a : Step} {next : a.Reply → Procedure β}
    (h : p.map f = .step a next) :
    ∃ before, p = .step a before ∧ next = fun reply => (before reply).map f := by
  cases p with
  | done r => exact nomatch h
  | step b before =>
    simp only [map, bind, step.injEq] at h
    obtain ⟨rfl, hnext⟩ := h
    exact ⟨before, rfl, (eq_of_heq hnext).symm⟩

theorem map_eq_done {p : Procedure α} {f : α → β} {b : β} (h : p.map f = .done b) :
    ∃ a, p = .done a ∧ b = f a := by
  cases p with
  | done a =>
    simp only [map, bind, done.injEq] at h
    exact ⟨a, rfl, h.symm⟩
  | step a next => exact nomatch h

/-- What is left of a procedure whose result is changed is the same with another result. -/
theorem Left.of_map {ws : List World} {p : Procedure α} {f : α → β} {q : Procedure β}
    (h : Left ws (p.map f) q) : ∃ q', Left ws p q' ∧ q = q'.map f := by
  generalize hp : p.map f = r at h
  induction h with
  | begin r => exact ⟨p, .begin p, hp.symm⟩
  | wait w _ ih =>
    obtain ⟨q', hleft, rfl⟩ := ih hp
    exact ⟨q', .wait w hleft, rfl⟩
  | step w _ ih =>
    obtain ⟨q', hleft, hq⟩ := ih hp
    obtain ⟨before, rfl, rfl⟩ := map_eq_step hq.symm
    exact ⟨_, .step w hleft, rfl⟩

theorem Left.of_map_done {ws : List World} {p : Procedure α} {f : α → β} {b : β}
    (h : Left ws (p.map f) (.done b)) : ∃ a, Left ws p (.done a) ∧ b = f a := by
  obtain ⟨q, hleft, hq⟩ := h.of_map
  obtain ⟨a, rfl, hb⟩ := map_eq_done hq.symm
  exact ⟨a, hleft, hb⟩

/-! ### Procedures that do the same -/

/-- Two procedures that take the same steps and end with results of which `Q` holds. -/
inductive Alike (Q : α → β → Prop) : Procedure α → Procedure β → Prop
  | done {a : α} {b : β} : Q a b → Alike Q (.done a) (.done b)
  | step {a : Step} {next : a.Reply → Procedure α} {next' : a.Reply → Procedure β} :
      (∀ reply, Alike Q (next reply) (next' reply)) → Alike Q (.step a next) (.step a next')

namespace Alike

variable {Q : α → β → Prop} {p : Procedure α} {q : Procedure β}

/-- Procedures that are alike do the same to the world. -/
theorem run (h : Alike Q p q) (w : World) :
    (p.run w).2 = (q.run w).2 ∧ Q (p.run w).1 (q.run w).1 := by
  induction h generalizing w with
  | done hq => exact ⟨rfl, hq⟩
  | step _ ih => exact ih _ _

theorem map {γ δ : Type} {f : α → γ} {g : β → δ} {R : γ → δ → Prop} (h : Alike Q p q)
    (hR : ∀ a b, Q a b → R (f a) (g b)) : Alike R (p.map f) (q.map g) := by
  induction h with
  | done hq => exact .done (hR _ _ hq)
  | step _ ih => exact .step ih

end Alike

end WidgetForge.Procedure
