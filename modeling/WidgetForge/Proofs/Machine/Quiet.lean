import WidgetForge.Machine.Invocation

/-!
# Acts that change no file

An act on a machine changes no file if all it does is to look at the machine and to write to
channels, and no channel leads to a file. Such acts are put together from such acts, so for a
program that opens no file it is enough to follow its text.
-/

namespace WidgetForge.Machine

open Disk Text

/-- No channel leads to a file. -/
def Fileless (m : Machine) : Prop :=
  ∀ place offset appending, Channel.file place offset appending ∉ m.channels

/-- On a machine where no channel leads to a file, the act changes no file and opens none. -/
def Quiet {α : Type} (act : Act α) : Prop :=
  ∀ m, m.Fileless → (act m).2.Fileless ∧ (act m).2.tree = m.tree

section

variable {α β : Type}

theorem quiet_pure (x : α) : Quiet (pure x : Act α) := fun _ hm => ⟨hm, rfl⟩

theorem quiet_get : Quiet (get : Act Machine) := fun _ hm => ⟨hm, rfl⟩

theorem Quiet.bind {act : Act α} {next : α → Act β} (hact : Quiet act)
    (hnext : ∀ x, Quiet (next x)) : Quiet (act >>= next) := by
  intro m hm
  obtain ⟨hfileless, htree⟩ := hact m hm
  obtain ⟨hfileless', htree'⟩ := hnext (act m).1 (act m).2 hfileless
  exact ⟨hfileless', htree'.trans htree⟩

/-- A loop over a list is quiet if its body is. -/
theorem Quiet.forIn {items : List α} {body : α → β → Act (ForInStep β)}
    (hbody : ∀ x state, Quiet (body x state)) (state : β) : Quiet (forIn items state body) := by
  induction items generalizing state with
  | nil => exact quiet_pure state
  | cons x rest ih =>
    rw [List.forIn_cons]
    refine (hbody x state).bind fun step => ?_
    cases step with
    | done state => exact quiet_pure state
    | yield state => exact ih state

/-- To do something for each item is quiet if each time it is. -/
theorem Quiet.each {items : List α} {act : α → Act Unit} (hact : ∀ x, Quiet (act x)) (result : β) :
    Quiet (do
      for x in items do act x
      return result) :=
  (Quiet.forIn (fun x _ => (hact x).bind fun _ => quiet_pure _) _).bind fun _ => quiet_pure _

end

/-- A channel that leads to no file may be put in the place of another. -/
theorem quiet_replace {c : Channel}
    (hc : ∀ place offset appending, c ≠ .file place offset appending) (number : Nat) : Quiet (replace number c) := by
  intro m hm
  refine ⟨fun place offset appending hmem => ?_, rfl⟩
  rcases Array.mem_or_eq_of_mem_setIfInBounds hmem with hold | hnew
  · exact hm _ _ _ hold
  · exact hc _ _ _ hnew.symm

/-- What is written to a channel goes to no file. -/
theorem quiet_put (number : Nat) (octets : Octets) : Quiet (put number octets) := by
  intro m hm
  unfold put
  simp only [bind, StateT.bind, get, getThe, MonadStateOf.get, StateT.get, pure]
  cases hchannel : m.channels[number]? with
  | none => exact ⟨hm, rfl⟩
  | some c =>
    cases c with
    | nothing => exact ⟨hm, rfl⟩
    | folder => exact ⟨hm, rfl⟩
    | memory content => exact quiet_replace (by simp) number m hm
    | file place offset appending => exact absurd (Array.mem_of_getElem? hchannel) (hm _ _ _)

end WidgetForge.Machine

namespace WidgetForge.Invocation

open Machine

theorem quiet_write (p : Invocation) (descriptor : Nat) (text : String) :
    Quiet (p.write descriptor text) := by
  unfold write
  split
  · exact quiet_pure _
  · exact quiet_put _ _

theorem quiet_print (p : Invocation) (text : String) : Quiet (p.print text) :=
  (p.quiet_write 1 text).bind fun _ => quiet_pure _

theorem quiet_complain (p : Invocation) (text : String) : Quiet (p.complain text) :=
  (p.quiet_write 2 text).bind fun _ => quiet_pure _

theorem quiet_report (p : Invocation) (text : String) : Quiet (p.report text) :=
  p.quiet_complain _

theorem quiet_fail (p : Invocation) (status : Nat) (text : String) :
    Quiet (p.fail status text) :=
  (p.quiet_report text).bind fun _ => quiet_pure _

end WidgetForge.Invocation
