import WidgetForge.Disk.Save
import WidgetForge.Proofs.Disk.Calls
import WidgetForge.Proofs.Procedure.Ends

/-!
# Saving a file leaves all or nothing

However the steps of `save` turn out, there are two ways to end. Either the whole content stands at
the end of the path and nothing else has changed, or there is an error and nothing has changed at
all: no temporary file is left, and no file is half written.

From the moment when the temporary file is made until it is gone, the world is the one before with
some octets in the temporary file (`held`).
-/

namespace WidgetForge.Disk

open Text (Octets)
open Procedure

/-- The world with a temporary file that holds these octets. -/
def held (w : World) (temp : Location) (octets : Octets) : World :=
  w.withTree (w.tree.put temp (.file octets))

/-- The file has been saved, and nothing else has changed. -/
def SavedIn (w w' : World) (p : Pathname) (content : Octets) : Prop :=
  ∃ t place, w' = w.withTree t ∧ w.tree.Saved t p place content

section

variable {w w' : World} {temp : Location} {octets content : Octets} {p : Pathname}
  {result : Except IoError Unit}

/-! ### Steps with a temporary file -/

@[simp] theorem held_held (w : World) (temp : Location) (octets more : Octets) :
    held (held w temp octets) temp more = held w temp more := by
  simp [held]

theorem perform_append (hfile : w.tree.file? temp = some octets) (added : Octets) :
    w.perform (.append temp added) = (.ok added.length, held w temp (octets ++ added)) := by
  simp [World.perform, World.change, held, Tree.append, hfile, Except.map]

theorem perform_rename_of_ok {t : Tree} (h : w.tree.rename temp p = .ok t) :
    w.perform (.rename temp p) = (.ok (), w.withTree t) := by
  simp [World.perform, World.change, h, Except.map]

theorem perform_rename_of_error {e : IoError} (h : w.tree.rename temp p = .error e) :
    w.perform (.rename temp p) = (.error e, w) := by
  simp [World.perform, World.change, h, Except.map]

/-- A write adds some of the octets to a file, or none and fails. -/
theorem performWith_append (hfile : w.tree.file? temp = some octets) (luck : Luck)
    (more : Octets) :
    (∃ e, w.performWith luck (.append temp more) = (.error e, w)) ∨
    ∃ n, w.performWith luck (.append temp more) =
      (.ok (more.take n).length, held w temp (octets ++ more.take n)) := by
  have hgood := perform_append hfile more
  cases luck with
  | refused e => exact Or.inl ⟨e, rfl⟩
  | short n => exact Or.inr ⟨n, perform_append hfile _⟩
  | good => exact Or.inr ⟨more.length, by rw [List.take_length]; exact hgood⟩
  | named name => exact Or.inr ⟨more.length, by rw [List.take_length]; exact hgood⟩

/-- Storing fails or not, and changes nothing. -/
theorem performWith_sync (w : World) (temp : Location) (luck : Luck) :
    ∃ reply, w.performWith luck (.sync temp) = (reply, w) := by
  cases luck <;> exact ⟨_, rfl⟩

/-- A file can be taken away whatever the luck. -/
theorem performWith_discard (w : World) (temp : Location) (luck : Luck) :
    w.performWith luck (.discard temp) = ((), w.withTree (w.tree.erase temp)) := by
  cases luck <;> rfl

/-- A file is moved, or it stays where it is. -/
theorem performWith_rename (w : World) (temp : Location) (p : Pathname) (luck : Luck) :
    (∃ e, w.performWith luck (.rename temp p) = (.error e, w)) ∨
    ∃ t, w.tree.rename temp p = .ok t ∧
      w.performWith luck (.rename temp p) = (.ok (), w.withTree t) := by
  have hgood : (∃ e, w.perform (.rename temp p) = (.error e, w)) ∨
      ∃ t, w.tree.rename temp p = .ok t ∧ w.perform (.rename temp p) = (.ok (), w.withTree t) := by
    cases hmove : w.tree.rename temp p with
    | error e => exact Or.inl ⟨e, perform_rename_of_error hmove⟩
    | ok t => exact Or.inr ⟨t, rfl, perform_rename_of_ok hmove⟩
  cases luck with
  | refused e => exact Or.inl ⟨e, rfl⟩
  | good => exact hgood
  | short n => exact hgood
  | named name => exact hgood

/-- A temporary file is made where nothing stood, or there is none. -/
theorem performWith_createTemp (w : World) (luck : Luck) (folder : Pathname) :
    (∃ e, w.performWith luck (.createTemp folder) = (.error e, w)) ∨
    ∃ temp, w.performWith luck (.createTemp folder) = (.ok temp, held w temp []) ∧ temp ≠ [] ∧
      w.tree.node? temp = none := by
  have hchosen (choose : Location → Option String) :
      (∃ e, w.change (w.tree.createTempAs folder choose) = (.error e, w)) ∨
      ∃ temp, w.change (w.tree.createTempAs folder choose) = (.ok temp, held w temp []) ∧
        temp ≠ [] ∧ w.tree.node? temp = none := by
    cases hmake : w.tree.createTempAs folder choose with
    | error e => exact Or.inl ⟨e, rfl⟩
    | ok made =>
      obtain ⟨temp, t⟩ := made
      obtain ⟨hne, hnone, rfl⟩ := Tree.createTempAs_ok hmake
      exact Or.inr ⟨temp, rfl, hne, hnone⟩
  cases luck with
  | refused e => exact Or.inl ⟨e, rfl⟩
  | good => exact hchosen w.tree.freeName?
  | short n => exact hchosen w.tree.freeName?
  | named name => exact hchosen fun _ => some name

/-! ### Filling and moving -/

theorem take_append_drop_length (more : Octets) (n : Nat) :
    more.take n ++ more.drop (more.take n).length = more := by
  rw [List.length_take]
  rcases Nat.le_total n more.length with hn | hn
  · rw [Nat.min_eq_left hn, List.take_append_drop]
  · rw [Nat.min_eq_right hn, List.take_of_length_le hn, List.drop_length, List.append_nil]

/-- Octets are added piece by piece, and nothing but the temporary file is touched. -/
theorem appendAllUpTo_ends (hne : temp ≠ []) {fuel : Nat} {more : Octets}
    (h : (appendAllUpTo fuel temp more).Ends (held w temp octets) result w') :
    ∃ all, w' = held w temp all ∧ (result = .ok () → all = octets ++ more) := by
  induction fuel generalizing octets more with
  | zero =>
    cases more with
    | nil =>
      obtain ⟨-, rfl⟩ := ends_done_iff.mp h
      exact ⟨octets, rfl, fun _ => by simp⟩
    | cons o rest =>
      obtain ⟨rfl, rfl⟩ := ends_done_iff.mp h
      exact ⟨octets, rfl, nofun⟩
  | succ fuel ih =>
    cases more with
    | nil =>
      obtain ⟨-, rfl⟩ := ends_done_iff.mp h
      exact ⟨octets, rfl, fun _ => by simp⟩
    | cons o rest =>
      obtain ⟨luck, h⟩ := ends_step_iff.mp h
      have hfile : (held w temp octets).tree.file? temp = some octets :=
        Tree.file?_put_self _ hne octets
      rcases performWith_append hfile luck (o :: rest) with ⟨e, hstep⟩ | ⟨n, hstep⟩
      · rw [hstep] at h
        obtain ⟨rfl, rfl⟩ := ends_done_iff.mp h
        exact ⟨octets, rfl, nofun⟩
      · rw [hstep, held_held] at h
        cases n with
        | zero =>
          obtain ⟨rfl, rfl⟩ := ends_done_iff.mp h
          exact ⟨_, rfl, nofun⟩
        | succ n =>
          obtain ⟨all, hall, hfull⟩ := ih h
          refine ⟨all, hall, fun hok => ?_⟩
          rw [hfull hok, List.append_assoc]
          exact congrArg _ (take_append_drop_length (o :: rest) (n + 1))

/-- What has gone wrong with a temporary file leaves nothing behind. -/
theorem abandon_ends (hne : temp ≠ []) (hnone : w.tree.node? temp = none) {e : IoError}
    (h : (abandon temp e).Ends (held w temp octets) result w') : result = .error e ∧ w' = w := by
  obtain ⟨luck, h⟩ := ends_step_iff.mp h
  have herase : (held w temp octets).tree.erase temp = w.tree := Tree.erase_put _ hne hnone _
  rw [performWith_discard, herase, held, World.withTree_withTree, World.withTree_tree] at h
  exact ends_done_iff.mp h

theorem fillAndMove_ends (hne : temp ≠ []) (hnone : w.tree.node? temp = none)
    (h : (fillAndMove temp p content).Ends (held w temp []) result w') :
    (result = .ok () ∧ SavedIn w w' p content) ∨ ((∃ e, result = .error e) ∧ w' = w) := by
  obtain ⟨filled, v, hfill, hrest⟩ := ends_bind_iff.mp h
  obtain ⟨all, rfl, hfull⟩ := appendAllUpTo_ends hne hfill
  cases filled with
  | error e =>
    obtain ⟨rfl, rfl⟩ := abandon_ends hne hnone hrest
    exact Or.inr ⟨⟨e, rfl⟩, rfl⟩
  | ok u =>
    obtain rfl : all = content := by simpa using hfull rfl
    obtain ⟨luck, hrest⟩ := ends_step_iff.mp hrest
    obtain ⟨stored, hsync⟩ := performWith_sync (held w temp all) temp luck
    rw [hsync] at hrest
    cases stored with
    | error e =>
      obtain ⟨rfl, rfl⟩ := abandon_ends hne hnone hrest
      exact Or.inr ⟨⟨e, rfl⟩, rfl⟩
    | ok stored =>
      obtain ⟨luck, hrest⟩ := ends_step_iff.mp hrest
      rcases performWith_rename (held w temp all) temp p luck with
        ⟨e, hmove⟩ | ⟨t, hrename, hmove⟩
      · rw [hmove] at hrest
        obtain ⟨rfl, rfl⟩ := abandon_ends hne hnone hrest
        exact Or.inr ⟨⟨e, rfl⟩, rfl⟩
      · rw [hmove, held, World.withTree_withTree] at hrest
        obtain ⟨rfl, rfl⟩ := ends_done_iff.mp hrest
        obtain ⟨place, hsaved⟩ := Tree.rename_ok hne hnone hrename
        exact Or.inl ⟨rfl, t, place, rfl, hsaved⟩

/-- **Saving leaves all or nothing**: the file stands at the end of its path and nothing else has
changed, or there is an error and nothing has changed. -/
theorem save_ends (h : (save p content).Ends w result w') :
    (result = .ok () ∧ SavedIn w w' p content) ∨ ((∃ e, result = .error e) ∧ w' = w) := by
  obtain ⟨luck, h⟩ := ends_step_iff.mp h
  rcases performWith_createTemp w luck p.folder with
    ⟨e, hmake⟩ | ⟨temp, hmake, hne, hnone⟩
  · rw [hmake] at h
    obtain ⟨rfl, rfl⟩ := ends_done_iff.mp h
    exact Or.inr ⟨⟨e, rfl⟩, rfl⟩
  · rw [hmake] at h
    exact fillAndMove_ends hne hnone h

end

end WidgetForge.Disk
