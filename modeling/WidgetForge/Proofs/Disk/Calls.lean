import WidgetForge.Disk.Calls
import WidgetForge.Proofs.Disk.Walk

/-!
# What the calls do to a tree

A call that succeeds has put one node at one location, and its path leads there afterwards. A
temporary file is put where nothing stood, so once it is moved to its path the tree is what it was
before, but for the file at the end of the path. A symbolic link that stood there gives way to the
file; then the path may have led past this very link, and it need not lead to the file.
-/

namespace WidgetForge.Disk.Tree

open Text (Octets)

theorem ne_nil_of_hasFolder_eq_false {t : Tree} {l : Location} (h : t.hasFolder l = false) :
    l ≠ [] := by
  rintro rfl
  exact absurd h (by simp [hasFolder, node?])

theorem hasFolder_eq_false_of_node?_eq_none {t : Tree} {l : Location} (h : t.node? l = none) :
    t.hasFolder l = false := by
  simp [hasFolder, h]

theorem isFolder_iff {t : Tree} {p : Pathname} : t.isFolder p = true ↔
    p.hasNul = false ∧ ∃ l, t.locate p = .ok l ∧ t.hasFolder l = true := by
  unfold isFolder
  cases hnul : p.hasNul with
  | true => simp
  | false =>
    cases hlocate : t.locate p with
    | error e => simp
    | ok l => simp

theorem makeFolder_eq_ok_iff {t t' : Tree} {p : Pathname} :
    t.makeFolder p = .ok t' ↔ p.hasNul = false ∧
      ∃ folder name, t.Last p folder name ∧ name.utf8ByteSize ≤ nameLimit ∧
        t.node? (folder ++ [name]) = none ∧ t.node? folder = some (.folder true) ∧
        t' = t.put (folder ++ [name]) (.folder true) := by
  constructor
  · intro h
    unfold makeFolder at h
    split at h
    · exact nomatch h
    next hnul =>
    split at h
    · exact nomatch h
    · exact nomatch h
    next folder name hlast =>
    split at h
    · exact nomatch h
    next hlimit =>
    split at h
    · exact nomatch h
    next hnone =>
    split_ifs at h with hfolder
    exact ⟨Bool.eq_false_iff.mpr hnul, folder, name, last_of_locateLast hlast,
      Nat.not_lt.mp hlimit, hnone, hfolder, (Except.ok.inj h).symm⟩
  · rintro ⟨hnul, folder, name, hlast, hlimit, hnone, hfolder, rfl⟩
    simp [makeFolder, hnul, hlast.locateLast, Nat.not_lt.mpr hlimit, hnone, hfolder]

/-- What is put where nothing stood takes no folder and no link away. -/
theorem keepsFolders_put_folder (t : Tree) {place : Location} (hplace : place ≠ [])
    (hnone : t.node? place = none) : KeepsFolders t (t.put place (.folder true)) := by
  refine ⟨rfl, fun l => hasFolder_put_folder hplace, fun l target hlink => ?_⟩
  have hl : l ≠ place := by
    rintro rfl
    rw [link?_eq_none_of_node?_eq_none hnone] at hlink
    exact nomatch hlink
  rw [link?_put_of_ne t hplace hl, hlink]

/-- A file that is put where no folder and no link stands leaves them where they are. -/
theorem keepsFolders_put_file {t : Tree} {place : Location} (hno : t.hasFolder place = false)
    (hlink : t.link? place = none) (content : Octets) :
    KeepsFolders t (t.put place (.file content)) := by
  have hplace := ne_nil_of_hasFolder_eq_false hno
  refine ⟨rfl, fun l hl => (hasFolder_put_file hplace hno content).trans hl, fun l target h => ?_⟩
  have hl : l ≠ place := by
    rintro rfl
    exact nomatch hlink.symm.trans h
  rw [link?_put_of_ne t hplace hl, h]

/-- A file that has been put where no folder stood has brought no folder and no link. -/
theorem keepsFolders_of_put_file {t : Tree} {place : Location} (hno : t.hasFolder place = false)
    (content : Octets) : KeepsFolders (t.put place (.file content)) t := by
  have hplace := ne_nil_of_hasFolder_eq_false hno
  refine ⟨rfl, fun l hl => (hasFolder_put_file hplace hno content).symm.trans hl,
    fun l target h => ?_⟩
  have hl : l ≠ place := by
    rintro rfl
    exact nomatch (link?_put_file_self t hplace content).symm.trans h
  rw [← h, link?_put_of_ne t hplace hl]

/-- A folder is made where nothing stood. -/
theorem makeFolder_ok {t t' : Tree} {p : Pathname} (h : t.makeFolder p = .ok t') :
    ∃ place, place ≠ [] ∧ t.node? place = none ∧ t' = t.put place (.folder true) ∧
      t'.locate p = .ok place := by
  obtain ⟨-, folder, name, hlast, hlimit, hnone, -, rfl⟩ := makeFolder_eq_ok_iff.mp h
  have hplace : folder ++ [name] ≠ [] := by simp
  have hnode := node?_put_self t hplace (.folder true)
  have hthere : (t.put (folder ++ [name]) (.folder true)).Last p folder name :=
    hlast.of_folders (keepsFolders_put_folder t hplace hnone)
  have hfolder := hasFolder_eq_true_iff.mpr ⟨true, hnode⟩
  refine ⟨folder ++ [name], hplace, hnone, rfl, ?_⟩
  exact hthere.locate hlimit hnode (link?_eq_none_of_hasFolder hfolder) fun _ => hfolder

theorem tempFolder_eq_ok_iff {t : Tree} {p : Pathname} {l : Location} :
    t.tempFolder p = .ok l ↔ p.hasNul = false ∧
    (t.tempPlace p).utf8ByteSize < pathLimit ∧ t.locate p = .ok l ∧
      t.node? l = some (.folder true) := by
  constructor
  · intro h
    unfold tempFolder at h
    split at h
    · exact nomatch h
    next hnul =>
    split at h
    · exact nomatch h
    next hlimit =>
    split at h
    · exact nomatch h
    next place hlocate =>
    split at h
    · exact nomatch h
    · exact nomatch h
    · next hnode =>
      obtain rfl : place = l := Except.ok.inj h
      exact ⟨Bool.eq_false_iff.mpr hnul, Nat.not_le.mp hlimit, hlocate, hnode⟩
    · exact nomatch h
  · rintro ⟨hnul, hlimit, hlocate, hnode⟩
    simp [tempFolder, hnul, Nat.not_le.mpr hlimit, hlocate, hnode]

/-- A temporary file is made where nothing stood. -/
theorem createTempAs_ok {t t' : Tree} {folder : Pathname} {choose : Location → Option String}
    {temp : Location} (h : t.createTempAs folder choose = .ok (temp, t')) :
    temp ≠ [] ∧ t.node? temp = none ∧ t' = t.put temp (.file []) := by
  unfold createTempAs at h
  split at h
  · exact nomatch h
  · split at h
    · exact nomatch h
    · split at h
      · exact nomatch h
      · next hnone =>
        simp only [Except.ok.injEq, Prod.mk.injEq] at h
        obtain ⟨rfl, rfl⟩ := h
        exact ⟨by simp, hnone, rfl⟩

/-- A file is moved to the end of the path, where no folder stands. -/
theorem rename_eq_ok_iff {t t' : Tree} {source : Location} {content : Octets} {p : Pathname}
    (hsource : t.file? source = some content) :
    t.rename source p = .ok t' ↔
      ∃ folder name, t.Last p folder name ∧ p.hasNul = false ∧ p.endsWithSlash = false ∧
        name.utf8ByteSize ≤ nameLimit ∧ t.hasFolder (folder ++ [name]) = false ∧
        t' = (t.erase source).put (folder ++ [name]) (.file content) := by
  constructor
  · intro h
    unfold rename at h
    by_cases hnul : p.hasNul = true
    · simp [hnul] at h
    cases hlast : t.locateLast p with
    | error e => simp [hnul, hlast] at h
    | ok last =>
      obtain ⟨folder, _ | name⟩ := last
      · simp [hnul, hlast] at h
      simp only [hnul, hlast, hsource, Bool.false_eq_true, if_false] at h
      split_ifs at h with hlimit hslash hfolder
      exact ⟨folder, name, last_of_locateLast hlast, Bool.eq_false_iff.mpr hnul,
        Bool.eq_false_iff.mpr hslash, Nat.not_lt.mp hlimit, Bool.eq_false_iff.mpr hfolder,
        (Except.ok.inj h).symm⟩
  · rintro ⟨folder, name, hlast, hnul, hslash, hlimit, hno, rfl⟩
    simp [rename, hnul, hlast.locateLast, Nat.not_lt.mpr hlimit, hslash, hno, hsource]

/-- The tree `t'` is the tree `t` with the file `content` at `place`, which is where the path `p`
ends and where no folder stood. The path leads to this file unless a symbolic link stood there. -/
structure Saved (t t' : Tree) (p : Pathname) (place : Location) (content : Octets) : Prop where
  destination : t.destination? p = some place
  noFolder : t.hasFolder place = false
  tree : t' = t.put place (.file content)
  locate : t.link? place = none → t'.locate p = .ok place
  lookUp : t.link? place = none → t'.lookUp p = .ok (.file content)

/-- All is kept that was there, unless a symbolic link has given way to the file. -/
theorem Saved.kept {t t' : Tree} {p : Pathname} {place : Location} {content : Octets}
    (h : t.Saved t' p place content) (hlink : t.link? place = none) : Kept t t' := by
  have hplace := ne_nil_of_hasFolder_eq_false h.noFolder
  rw [h.tree]
  refine ⟨here_put t place _, fun l hl => ?_, fun l => ?_, fun l node hnode => ?_⟩
  · rw [hasFolder_put_file hplace h.noFolder, hl]
  · by_cases hl : l = place
    · rw [hl, link?_put_file_self t hplace, hlink]
    · rw [link?_put_of_ne t hplace hl]
  · rw [node?_put t hplace]
    split_ifs
    · exact ⟨_, rfl⟩
    · exact ⟨node, hnode⟩

/-- Only the file at the end of the path has changed. -/
theorem Saved.file? {t t' : Tree} {p : Pathname} {place : Location} {content : Octets}
    (h : t.Saved t' p place content) (l : Location) :
    t'.file? l = if l = place then some content else t.file? l := by
  have hplace := ne_nil_of_hasFolder_eq_false h.noFolder
  rw [h.tree, Tree.file?, node?_put t hplace]
  split_ifs
  · rfl
  · rfl

/-- A temporary file is moved to the end of the path. -/
theorem rename_ok {t t' : Tree} {temp : Location} {content : Octets} {p : Pathname}
    (hne : temp ≠ []) (htemp : t.node? temp = none)
    (h : (t.put temp (.file content)).rename temp p = .ok t') :
    ∃ place, t.Saved t' p place content := by
  have hfree := hasFolder_eq_false_of_node?_eq_none htemp
  obtain ⟨folder, name, hlast, hnul, hslash, hlimit, hno, rfl⟩ :=
    (rename_eq_ok_iff (file?_put_self t hne content)).mp h
  rw [hasFolder_put_file hne hfree] at hno
  have hplace := ne_nil_of_hasFolder_eq_false hno
  have hbefore : t.Last p folder name := hlast.of_folders (keepsFolders_of_put_file hfree content)
  have hlocate (hlink : t.link? (folder ++ [name]) = none) :
      (t.put (folder ++ [name]) (.file content)).locate p = .ok (folder ++ [name]) :=
    (hbefore.of_folders (keepsFolders_put_file hno hlink content)).locate hlimit
      (node?_put_self t hplace _) (link?_put_file_self t hplace content)
      fun h => absurd h (by simp [hslash])
  rw [erase_put t hne htemp]
  refine ⟨folder ++ [name], destination?_eq_some_iff.mpr ⟨folder, name, hbefore, rfl⟩, hno, rfl,
    hlocate, fun hlink => ?_⟩
  simp [lookUp, hnul, hlocate hlink, hplace]

end WidgetForge.Disk.Tree
