import WidgetForge.Procedure.World

/-!
# Running composed procedures

A procedure that is composed of others is run part by part; what changes only the result leaves the
world alone.
-/

namespace WidgetForge.Procedure

open Disk

variable {α β γ : Type}

theorem run_bind (p : Procedure α) (f : α → Procedure β) (w : World) :
    (p.bind f).run w = (f (p.run w).1).run (p.run w).2 := by
  induction p generalizing w with
  | done a => rfl
  | step s next ih => exact ih _ _

theorem run_map (f : α → β) (p : Procedure α) (w : World) :
    (p.map f).run w = (f (p.run w).1, (p.run w).2) := by
  rw [map, run_bind]
  rfl

/-- What answers prompts stays the same. -/
theorem picker_run (p : Procedure α) (w : World) : (p.run w).2.picker = w.picker := by
  induction p generalizing w with
  | done a => rfl
  | step s next ih =>
    have hchange {β : Type} (outcome : Except IoError (β × Tree)) :
        (w.change outcome).2.picker = w.picker := by cases outcome <;> rfl
    have hperform : (w.perform s).2.picker = w.picker := by
      cases s with
      | makeFolder p => exact hchange _
      | createTemp folder => exact hchange _
      | append temp octets => exact hchange _
      | rename temp target => exact hchange _
      | isFolder p => rfl
      | sync temp => rfl
      | discard temp => rfl
      | readFile p => rfl
      | ask prompt => rfl
    exact (ih _ _).trans hperform

theorem map_map (f : α → β) (g : β → γ) (p : Procedure α) :
    (p.map f).map g = p.map fun a => g (f a) := by
  induction p with
  | done a => rfl
  | step s next ih =>
    simp only [map, bind] at ih ⊢
    congr
    funext reply
    exact ih reply

end WidgetForge.Procedure
