import Mathlib.Logic.Basic
import WidgetForge.Procedure.World

/-!
# How procedures may end

A disk may be full, a folder may be protected, a write may stop halfway: a step can fail though the
tree would let it pass. `Procedure.Ends` says how a procedure may end in a world where any step may
have any such luck. What a step does when it fails is what the operating system promises: nothing,
but for a write, which may have added a part of its octets. Taking away a temporary file never
fails, and a temporary file may get any name that is free.

What is proved of every way to end is proved of `Procedure.run`, which is one of them
(`ends_run`), the one without bad luck.
-/

namespace WidgetForge

open Disk Operator Text

/-- What befalls a step. -/
inductive Luck where
  /-- It is performed. -/
  | good
  /-- It is refused with this error and changes nothing. -/
  | refused (e : IoError)
  /-- Of the octets that it adds, only so many are added. -/
  | short (n : Nat)
  /-- The temporary file that it makes gets this name. -/
  | named (name : String)

namespace World

/-- Performs a step with some luck. Luck that does not concern the step is none. -/
def performWith (w : World) : Luck → (s : Step) → s.Reply × World
  | .refused e, .makeFolder _ => (.error e, w)
  | .refused _, .isFolder _ => (false, w)
  | .refused e, .createTemp _ => (.error e, w)
  | .refused e, .append _ _ => (.error e, w)
  | .refused e, .sync _ => (.error e, w)
  | .refused e, .rename _ _ => (.error e, w)
  | .refused e, .readFile _ => (.error e, w)
  | .short n, .append temp octets => w.perform (.append temp (octets.take n))
  | .named name, .createTemp folder => w.change (w.tree.createTempAs folder fun _ => some name)
  | _, s => w.perform s

@[simp] theorem tree_withTree (w : World) (t : Tree) : (w.withTree t).tree = t := rfl

@[simp] theorem withTree_withTree (w : World) (t u : Tree) :
    (w.withTree t).withTree u = w.withTree u := rfl

@[simp] theorem withTree_tree (w : World) : w.withTree w.tree = w := rfl

end World

namespace Procedure

variable {α β : Type}

/-- `p.Ends w a w'`: begun in the world `w`, the procedure `p` may end with the result `a` in the
world `w'`. -/
inductive Ends : Procedure α → World → α → World → Prop
  /-- A procedure that is done has ended. -/
  | done (a : α) (w : World) : Ends (.done a) w a w
  /-- A step is performed with some luck, and the procedure goes on from there. -/
  | step {s : Step} {next : s.Reply → Procedure α} {w w' : World} {a : α} (luck : Luck) :
      Ends (next (w.performWith luck s).1) (w.performWith luck s).2 a w' →
        Ends (.step s next) w a w'

theorem ends_done_iff {a b : α} {w w' : World} : (done a).Ends w b w' ↔ b = a ∧ w' = w := by
  constructor
  · intro h
    cases h
    exact ⟨rfl, rfl⟩
  · rintro ⟨rfl, rfl⟩
    exact .done _ _

theorem ends_step_iff {s : Step} {next : s.Reply → Procedure α} {w w' : World} {a : α} :
    (step s next).Ends w a w' ↔
      ∃ luck, (next (w.performWith luck s).1).Ends (w.performWith luck s).2 a w' := by
  constructor
  · intro h
    cases h with
    | step luck h => exact ⟨luck, h⟩
  · rintro ⟨luck, h⟩
    exact .step luck h

/-- One procedure after the other: the second begins where the first ended. -/
theorem ends_bind_iff {p : Procedure α} {f : α → Procedure β} {w w' : World} {b : β} :
    (p.bind f).Ends w b w' ↔ ∃ a v, p.Ends w a v ∧ (f a).Ends v b w' := by
  constructor
  · intro h
    induction p generalizing w with
    | done a => exact ⟨a, w, .done a w, h⟩
    | step s next ih =>
      obtain ⟨luck, h⟩ := ends_step_iff.mp h
      obtain ⟨a, v, hp, hf⟩ := ih _ h
      exact ⟨a, v, .step luck hp, hf⟩
  · rintro ⟨a, v, hp, hf⟩
    induction hp with
    | done => exact hf
    | step luck _ ih => exact .step luck (ih hf)

theorem ends_map_iff {p : Procedure α} {f : α → β} {w w' : World} {b : β} :
    (p.map f).Ends w b w' ↔ ∃ a, p.Ends w a w' ∧ b = f a := by
  rw [Procedure.map, ends_bind_iff]
  constructor
  · rintro ⟨a, v, hp, hf⟩
    obtain ⟨rfl, rfl⟩ := ends_done_iff.mp hf
    exact ⟨a, hp, rfl⟩
  · rintro ⟨a, hp, rfl⟩
    exact ⟨a, w', hp, .done _ _⟩

/-- The run without bad luck is one way to end. -/
theorem ends_run (p : Procedure α) (w : World) : p.Ends w (p.run w).1 (p.run w).2 := by
  induction p generalizing w with
  | done a => exact .done a w
  | step s next ih =>
    refine .step .good ?_
    have hgood : w.performWith .good s = w.perform s := by cases s <;> rfl
    rw [hgood]
    exact ih _ _

end Procedure

end WidgetForge
