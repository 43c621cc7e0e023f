import Mathlib.Data.List.Basic
import WidgetForge.Disk.Tree

/-!
# What changes of a tree do to it

Putting a node at a location changes what stands there and nothing else, and taking away a node that
was put where nothing stood gives the tree back.
-/

namespace WidgetForge.Disk.Tree

open Text (Octets)

theorem find?_putIn (place l : Location) (node : Node) (nodes : List (Location × Node)) :
    find? l (putIn place node nodes) = if l = place then some node else find? l nodes := by
  induction nodes with
  | nil =>
    by_cases h : l = place
    · simp [putIn, find?, h]
    · simp [putIn, find?, h, Ne.symm h]
  | cons entry rest ih =>
    obtain ⟨m, n⟩ := entry
    by_cases hm : m = place
    · subst hm
      by_cases hl : l = m
      · simp [putIn, find?, hl]
      · simp [putIn, find?, hl, Ne.symm hl]
    · simp only [putIn, hm, if_false, find?, ih]
      by_cases hl : m = l
      · have hne : l ≠ place := fun h => hm (hl.trans h)
        simp [hl, hne]
      · simp [hl]

theorem putIn_putIn (place : Location) (a b : Node) (nodes : List (Location × Node)) :
    putIn place b (putIn place a nodes) = putIn place b nodes := by
  induction nodes with
  | nil => simp [putIn]
  | cons entry rest ih =>
    obtain ⟨m, n⟩ := entry
    by_cases hm : m = place
    · simp [putIn, hm]
    · simp [putIn, hm, ih]

/-- A node that was put where nothing stood is the only one there. -/
theorem filter_putIn_of_find?_eq_none {place : Location} {nodes : List (Location × Node)}
    (h : find? place nodes = none) (node : Node) :
    (putIn place node nodes).filter (fun entry => entry.1 ≠ place) = nodes := by
  induction nodes with
  | nil => simp [putIn]
  | cons entry rest ih =>
    obtain ⟨m, n⟩ := entry
    by_cases hm : m = place
    · simp [find?, hm] at h
    · simp only [find?, hm, if_false] at h
      simpa [putIn, hm] using ih h

theorem find?_filter_ne (place l : Location) (nodes : List (Location × Node)) :
    find? l (nodes.filter fun entry => entry.1 ≠ place) =
      if l = place then none else find? l nodes := by
  induction nodes with
  | nil => simp [find?]
  | cons entry rest ih =>
    obtain ⟨m, n⟩ := entry
    by_cases hm : m = place
    · subst hm
      by_cases hl : l = m
      · simpa [hl] using ih
      · simpa [find?, hl, Ne.symm hl] using ih
    · by_cases hl : m = l
      · subst hl
        simp [find?, hm]
      · simpa [find?, hm, hl] using ih

/-- Putting a node below the root changes what stands there, and nothing else. -/
theorem node?_put (t : Tree) {place : Location} (hplace : place ≠ []) (node : Node)
    (l : Location) : (t.put place node).node? l = if l = place then some node else t.node? l := by
  by_cases hl : l = []
  · subst hl
    simp [node?, hplace.symm]
  · simp [node?, put, hl, find?_putIn]

@[simp] theorem node?_put_self (t : Tree) {place : Location} (hplace : place ≠ []) (node : Node) :
    (t.put place node).node? place = some node := by
  rw [node?_put t hplace, if_pos rfl]

theorem node?_put_of_ne (t : Tree) {place l : Location} (hplace : place ≠ []) (hl : l ≠ place)
    (node : Node) : (t.put place node).node? l = t.node? l := by
  rw [node?_put t hplace, if_neg hl]

@[simp] theorem here_put (t : Tree) (place : Location) (node : Node) :
    (t.put place node).here = t.here := rfl

@[simp] theorem put_put (t : Tree) (place : Location) (a b : Node) :
    (t.put place a).put place b = t.put place b := by
  simp [put, putIn_putIn]

/-- A node that was put where nothing stood can be taken away again. -/
theorem erase_put (t : Tree) {place : Location} (hplace : place ≠ []) (h : t.node? place = none)
    (node : Node) : (t.put place node).erase place = t := by
  have hfind : find? place t.nodes = none := by simpa [node?, hplace] using h
  simp only [erase, put, filter_putIn_of_find?_eq_none hfind node]

/-- Taking away what stands at a location changes what stands there, and nothing else. -/
theorem node?_erase (t : Tree) {place : Location} (hplace : place ≠ []) (l : Location) :
    (t.erase place).node? l = if l = place then none else t.node? l := by
  by_cases hl : l = []
  · subst hl
    simp [node?, hplace.symm]
  · simp only [node?, erase, List.isEmpty_eq_false_iff.mpr hl, Bool.false_eq_true, if_false,
      find?_filter_ne]

theorem file?_eq_some_iff {t : Tree} {l : Location} {content : Octets} :
    t.file? l = some content ↔ t.node? l = some (.file content) := by
  unfold file?
  split
  · next h => simp [h]
  · next h => simpa using h content

theorem file?_put_self (t : Tree) {place : Location} (hplace : place ≠ []) (content : Octets) :
    (t.put place (.file content)).file? place = some content := by
  simp [file?, hplace]

theorem hasFolder_eq_true_iff {t : Tree} {l : Location} :
    t.hasFolder l = true ↔ ∃ growable, t.node? l = some (.folder growable) := by
  unfold hasFolder
  split
  · next growable h => simp [h]
  · next h => simpa using h

theorem link?_eq_some_iff {t : Tree} {l : Location} {target : Pathname} :
    t.link? l = some target ↔ t.node? l = some (.link target) := by
  unfold link?
  split
  · next h => simp [h]
  · next h => simpa using h target

/-- There are no symbolic links in the tree. -/
def Unlinked (t : Tree) : Prop := ∀ l, t.link? l = none

theorem link?_put_of_ne (t : Tree) {place l : Location} (hplace : place ≠ []) (hl : l ≠ place)
    (node : Node) : (t.put place node).link? l = t.link? l := by
  rw [link?, link?, node?_put_of_ne t hplace hl]

theorem link?_put_file_self (t : Tree) {place : Location} (hplace : place ≠ [])
    (content : Octets) : (t.put place (.file content)).link? place = none := by
  rw [link?, node?_put_self t hplace]

theorem link?_eq_none_of_hasFolder {t : Tree} {l : Location} (h : t.hasFolder l = true) :
    t.link? l = none := by
  obtain ⟨growable, hnode⟩ := hasFolder_eq_true_iff.mp h
  rw [link?, hnode]

theorem link?_eq_none_of_node?_eq_none {t : Tree} {l : Location} (h : t.node? l = none) :
    t.link? l = none := by
  rw [link?, h]

/-- A folder that is put somewhere is a folder, and every other location stays what it is. -/
theorem hasFolder_put_folder {t : Tree} {place l : Location} (hplace : place ≠ [])
    (h : t.hasFolder l = true) : (t.put place (.folder true)).hasFolder l = true := by
  rw [hasFolder_eq_true_iff] at h ⊢
  rw [node?_put t hplace]
  split_ifs
  · exact ⟨true, rfl⟩
  · exact h

/-- A file that is put where no folder stands leaves all folders where they are. -/
theorem hasFolder_put_file {t : Tree} {place l : Location} (hplace : place ≠ [])
    (hno : t.hasFolder place = false) (content : Octets) :
    (t.put place (.file content)).hasFolder l = t.hasFolder l := by
  by_cases hl : l = place
  · subst hl
    simp [hasFolder, hplace] at hno ⊢
    exact hno
  · simp [hasFolder, node?_put_of_ne t hplace hl]

end WidgetForge.Disk.Tree
