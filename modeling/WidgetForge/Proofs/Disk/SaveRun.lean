import Mathlib.Data.List.Nodup
import Mathlib.Data.List.Perm.Subperm
import WidgetForge.Proofs.Disk.SameFolders
import WidgetForge.Proofs.Disk.Save
import WidgetForge.Proofs.Procedure.Run

/-!
# Saving a file when nothing fails

Without bad luck, saving a file is a change of the tree like any other (`Tree.saved`): the content
goes into a temporary file, for which there is always a free name, and is moved to its path. Whether
that works hangs on the folders and symbolic links of the tree alone, and not on what stands in the
place of the file (`Tree.Takes`). Without links a file that has been saved can be saved again.
-/

namespace WidgetForge.Disk

open Procedure
open Text (Octets)

namespace Tree

variable {t t' : Tree} {p : Pathname} {place : Location} {content : Octets}

/-! ### Names for temporary files -/

theorem tempName_injective : Function.Injective tempName := by
  intro m n h
  have hread (k : Nat) : Nat.ofDigitChars 10 ((tempName k).toList.drop 4) 0 = k := by
    have hlist : (tempName k).toList.drop 4 =
        List.replicate (6 - (Nat.toDigits 10 k).length) '0' ++ Nat.toDigits 10 k := by
      simp [tempName]
    rw [hlist, Nat.ofDigitChars_append, Nat.ofDigitChars_replicate_zero]
    simp
  rw [← hread m, h, hread n]

theorem mem_of_find? {l : Location} {node : Node} {nodes : List (Location × Node)}
    (h : find? l nodes = some node) : l ∈ nodes.map Prod.fst := by
  induction nodes with
  | nil => exact nomatch h
  | cons entry rest ih =>
    obtain ⟨m, n⟩ := entry
    by_cases hm : m = l
    · subst hm
      exact List.mem_cons_self
    · simp only [find?, if_neg hm] at h
      exact List.mem_cons_of_mem _ (ih h)

/-- A folder has a free name, for there are more names than can be taken. -/
theorem exists_freeName? (t : Tree) (folder : Location) :
    ∃ name, t.freeName? folder = some name ∧ t.node? (folder ++ [name]) = none := by
  cases hfree : t.freeName? folder with
  | some name => exact ⟨name, rfl, by simpa using List.find?_some hfree⟩
  | none =>
    -- if all these names were taken, the tree would have more entries than it has
    let places := (List.range (t.nodes.length + 1)).map fun n => folder ++ [tempName n]
    have hnodup : places.Nodup := by
      refine List.nodup_range.map fun m n h => tempName_injective ?_
      simpa using h
    have hsubset : places ⊆ t.nodes.map Prod.fst := by
      intro place hplace
      obtain ⟨n, hn, rfl⟩ := List.mem_map.mp hplace
      have htaken := List.find?_eq_none.mp hfree (tempName n) (List.mem_map_of_mem hn)
      obtain ⟨node, hnode⟩ := Option.ne_none_iff_exists'.mp (by simpa using htaken)
      have hfind : find? (folder ++ [tempName n]) t.nodes = some node := by
        simpa [node?] using hnode
      exact mem_of_find? hfind
    have hlength := (List.subperm_of_subset hnodup hsubset).length_le
    simp only [places, List.length_map, List.length_range] at hlength
    exact absurd hlength (Nat.not_succ_le_self _)

/-! ### The change of the tree -/

/-- The tree once a file has been saved: its content has gone into a temporary file, which has been
moved to the path of the file. -/
def saved (t : Tree) (p : Pathname) (content : Octets) : Except IoError Tree :=
  match t.createTemp p.folder with
  | .error e => .error e
  | .ok (temp, held) => (held.put temp (.file content)).rename temp p

/-- In the tree `t` a file can be saved to the path `p`, and it stands at `place` then. -/
structure Takes (t : Tree) (p : Pathname) (place : Location) : Prop where
  temp : ∃ folder, t.tempFolder p.folder = .ok folder
  hasNul : p.hasNul = false
  endsWithSlash : p.endsWithSlash = false
  last : ∃ folder name, t.Last p folder name ∧ name.utf8ByteSize ≤ nameLimit ∧
    place = folder ++ [name]
  noFolder : t.hasFolder place = false

theorem SameFolders.takes_iff (h : t.SameFolders t') : t'.Takes p place ↔ t.Takes p place := by
  constructor
  · rintro ⟨⟨temp, htemp⟩, hnul, hslash, ⟨folder, name, hlast, hlimit, hplace⟩, hno⟩
    exact ⟨⟨temp, h.tempFolder_iff.mp htemp⟩, hnul, hslash,
      ⟨folder, name, h.last_iff.mp hlast, hlimit, hplace⟩, h.hasFolder place ▸ hno⟩
  · rintro ⟨⟨temp, htemp⟩, hnul, hslash, ⟨folder, name, hlast, hlimit, hplace⟩, hno⟩
    exact ⟨⟨temp, h.tempFolder_iff.mpr htemp⟩, hnul, hslash,
      ⟨folder, name, h.last_iff.mpr hlast, hlimit, hplace⟩, (h.hasFolder place).trans hno⟩

/-- A temporary file can be made where the folder takes it in. -/
theorem createTemp_of_tempFolder {folder : Pathname} {l : Location}
    (h : t.tempFolder folder = .ok l) : ∃ temp, temp ≠ [] ∧ t.node? temp = none ∧
      t.createTemp folder = .ok (temp, t.put temp (.file [])) := by
  obtain ⟨name, hname, hnone⟩ := t.exists_freeName? l
  exact ⟨l ++ [name], by simp, hnone, by simp [createTemp, createTempAs, h, hname, hnone]⟩

theorem createTemp_of_tempFolder_error {folder : Pathname} {e : IoError}
    (h : t.tempFolder folder = .error e) :
    t.createTemp folder = .error (t.tempError folder e) := by
  simp [createTemp, createTempAs, h]

/-- What a path takes in from a temporary file. -/
theorem rename_temp_iff {temp : Location} (hne : temp ≠ []) (hnone : t.node? temp = none)
    (htemp : ∃ folder, t.tempFolder p.folder = .ok folder) :
    (t.put temp (.file content)).rename temp p = .ok t' ↔
      ∃ place, t.Takes p place ∧ t' = t.put place (.file content) := by
  have hsame : t.SameFolders (t.put temp (.file content)) :=
    SameFolders.put_file (hasFolder_eq_false_of_node?_eq_none hnone)
      (link?_eq_none_of_node?_eq_none hnone) content
  rw [rename_eq_ok_iff (file?_put_self t hne content), erase_put t hne hnone]
  constructor
  · rintro ⟨folder, name, hlast, hnul, hslash, hlimit, hno, rfl⟩
    refine ⟨folder ++ [name], ⟨htemp, hnul, hslash, ⟨folder, name, ?_, hlimit, rfl⟩, ?_⟩, rfl⟩
    · exact hsame.last_iff.mp hlast
    · rw [← hsame.hasFolder, hno]
  · rintro ⟨place, ⟨-, hnul, hslash, ⟨folder, name, hlast, hlimit, rfl⟩, hno⟩, rfl⟩
    refine ⟨folder, name, hsame.last_iff.mpr hlast, hnul, hslash, hlimit, ?_, rfl⟩
    rw [hsame.hasFolder, hno]

/-- **Where a file can be saved**: a path that takes it has it afterwards, and nothing else is
new. -/
theorem saved_eq_ok_iff : t.saved p content = .ok t' ↔
    ∃ place, t.Takes p place ∧ t' = t.put place (.file content) := by
  cases htemp : t.tempFolder p.folder with
  | error e =>
    rw [saved, createTemp_of_tempFolder_error htemp]
    refine ⟨nofun, fun ⟨place, htakes, _⟩ => ?_⟩
    obtain ⟨folder, hfolder⟩ := htakes.temp
    exact nomatch htemp.symm.trans hfolder
  | ok folder =>
    obtain ⟨temp, hne, hnone, hcreate⟩ := createTemp_of_tempFolder htemp
    rw [saved, hcreate]
    simp only [put_put]
    exact rename_temp_iff hne hnone ⟨folder, htemp⟩

/-- A file that has been saved has taken no folder and no link away and made none. -/
theorem sameFolders_of_saved (hlinks : t.Unlinked) (h : t.saved p content = .ok t') :
    t.SameFolders t' := by
  obtain ⟨place, htakes, rfl⟩ := saved_eq_ok_iff.mp h
  exact SameFolders.put_file htakes.noFolder (hlinks place) content

/-- A file that has been saved can be saved again, and nothing changes. -/
theorem saved_again (hlinks : t.Unlinked) (h : t.saved p content = .ok t') :
    t'.saved p content = .ok t' := by
  have hsame := sameFolders_of_saved hlinks h
  obtain ⟨place, htakes, rfl⟩ := saved_eq_ok_iff.mp h
  exact saved_eq_ok_iff.mpr ⟨place, hsame.takes_iff.mpr htakes, by rw [put_put]⟩

/-- A file that could not be saved can still not be saved as long as the folders are the same. -/
theorem saved_again_fails {e : IoError} (h : t.saved p content = .error e)
    (hsame : t.SameFolders t') : ∃ e', t'.saved p content = .error e' := by
  cases hsaved : t'.saved p content with
  | error e' => exact ⟨e', rfl⟩
  | ok u' =>
    obtain ⟨place, htakes, -⟩ := saved_eq_ok_iff.mp hsaved
    have hbefore : t.saved p content = .ok (t.put place (.file content)) :=
      saved_eq_ok_iff.mpr ⟨place, hsame.takes_iff.mp htakes, rfl⟩
    exact nomatch h.symm.trans hbefore

end Tree

/-! ### The run -/

section

variable {w : World} {temp : Location} {octets content : Octets} {p : Pathname}

/-- Without bad luck the octets of a temporary file are added in one step. -/
theorem run_appendAll (hne : temp ≠ []) :
    (appendAll temp content).run (held w temp []) = (.ok (), held w temp content) := by
  cases content with
  | nil => rfl
  | cons o rest =>
    have hfile : (held w temp []).tree.file? temp = some [] := Tree.file?_put_self _ hne []
    have hdone : (o :: rest).drop (rest.length + 1) = [] := by simp
    rw [appendAll, List.length_cons, appendAllUpTo, run, perform_append hfile, held_held]
    · simp only [List.nil_append, List.length_cons, hdone]
      cases rest.length <;> rfl
    · exact nofun

/-- A temporary file is moved to its path, or it is taken away again. -/
theorem run_fillAndMove (hne : temp ≠ []) (hnone : w.tree.node? temp = none) :
    (fillAndMove temp p content).run (held w temp []) =
      w.change (((held w temp content).tree.rename temp p).map fun t => ((), t)) := by
  have hsync : (held w temp content).perform (.sync temp) = (.ok (), held w temp content) := rfl
  rw [fillAndMove, run_bind, run_appendAll hne]
  simp only [run]
  rw [hsync]
  simp only [run]
  cases hmove : (held w temp content).tree.rename temp p with
  | ok t =>
    rw [perform_rename_of_ok hmove]
    rfl
  | error e =>
    have herase : (held w temp content).tree.erase temp = w.tree := Tree.erase_put _ hne hnone _
    rw [perform_rename_of_error hmove]
    simp only [abandon, run, World.perform, herase]
    rfl

/-- **Saving a file changes the tree** as `Tree.saved` says. -/
theorem run_save (p : Pathname) (content : Octets) (w : World) :
    (save p content).run w = w.change ((w.tree.saved p content).map fun t => ((), t)) := by
  cases htemp : w.tree.tempFolder p.folder with
  | error e =>
    have hcreate := Tree.createTemp_of_tempFolder_error htemp
    rw [save, run, World.perform, Tree.saved, hcreate]
    rfl
  | ok folder =>
    obtain ⟨temp, hne, hnone, hcreate⟩ := Tree.createTemp_of_tempFolder htemp
    rw [save, run, World.perform, Tree.saved, hcreate]
    simp only [Tree.put_put]
    exact run_fillAndMove hne hnone

end

end WidgetForge.Disk
