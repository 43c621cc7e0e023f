import WidgetForge.Proofs.Disk.Calls
import WidgetForge.Proofs.Disk.Parents

/-!
# Trees with the same folders

Where folders can be made and where they cannot, where a temporary file can be made and where a file
can be saved: all of this hangs on the folders and symbolic links of a tree. It is the same in a
tree that has the same ones and maybe more files, but for the reason why a folder cannot be made.
-/

namespace WidgetForge.Disk.Tree

variable {t t' : Tree} {p q : Pathname} {l place : Location}

/-! ### Folders on the way to a folder -/

theorem sound_of_begins (h : Pathname.Begins q p) (hne : q.text ≠ "") (hsound : sound p = .ok ()) :
    sound q = .ok () := by
  unfold sound at hsound ⊢
  split_ifs at hsound with hempty hlimit
  rw [if_neg (by simpa using hne), if_neg]
  exact fun hq => hlimit (Nat.le_trans hq h.utf8ByteSize_le)

/-- A beginning of a path leads to a folder if the path goes on from there. -/
theorem isFolder_of_begins {mid : List String} (hbegins : Pathname.Begins q p) (hne : q.text ≠ "")
    (hnul : p.hasNul = false) (hsound : sound p = .ok ())
    (hroute : Route t linkLimit (t.start p) (q.names ++ mid) l) (hl : t.hasFolder l = true) :
    t.isFolder q = true := by
  obtain ⟨m, hm, hrest⟩ := hroute.split
  have hfolder : t.hasFolder m = true := hrest.hasFolder hl
  have hstart : t.start q = t.start p := by
    rw [start, start, Pathname.startFrom, Pathname.startFrom, hbegins.isAbsolute hne]
  refine isFolder_iff.mpr ⟨hbegins.hasNul hnul, m, ?_, hfolder⟩
  exact locate_iff.mpr ⟨sound_of_begins hbegins hne hsound, hstart ▸ hm, fun _ => hfolder⟩

/-- A path leads to a folder, so the path above it does. -/
theorem isFolder_parent (hparent : p.parent? = some q) (hne : q.text ≠ "")
    (h : t.isFolder p = true) : t.isFolder q = true := by
  have hbegins := Pathname.begins_of_parent? hparent
  obtain ⟨more, -, hnames⟩ := hbegins.names
  obtain ⟨hnul, l, hlocate, hl⟩ := isFolder_iff.mp h
  obtain ⟨hsound, hroute, -⟩ := locate_iff.mp hlocate
  exact isFolder_of_begins hbegins hne hnul hsound (hnames ▸ hroute) hl

/-! ### Where folders can be made -/

/-- A folder is there once it has been made. -/
theorem isFolder_of_makeFolder (h : t.makeFolder p = .ok t') : t'.isFolder p = true := by
  obtain ⟨place, hne, -, rfl, hlocate⟩ := makeFolder_ok h
  refine isFolder_iff.mpr ⟨(makeFolder_eq_ok_iff.mp h).1, place, hlocate, ?_⟩
  exact hasFolder_eq_true_iff.mpr ⟨true, node?_put_self t hne _⟩

/-- A folder can be made, so the path above it leads to a folder. -/
theorem isFolder_parent_of_makeFolder (hparent : p.parent? = some q) (hne : q.text ≠ "")
    (h : t.makeFolder p = .ok t') : t.isFolder q = true := by
  have hbegins := Pathname.begins_of_parent? hparent
  obtain ⟨more, hmore, hnames⟩ := hbegins.names
  obtain ⟨hnul, folder, name, hlast, -⟩ := makeFolder_eq_ok_iff.mp h
  obtain ⟨before, hbefore, hroute⟩ := hlast.names
  have hdropLast : before = q.names ++ more.dropLast := by
    have hsplit := hnames.symm.trans hbefore
    rw [← List.dropLast_append_getLast hmore, ← List.append_assoc] at hsplit
    exact (List.append_inj_left' hsplit rfl).symm
  rw [hdropLast] at hroute
  exact isFolder_of_begins hbegins hne hnul hlast.sound hroute hlast.hasFolder

/-- What is there cannot be made. -/
theorem makeFolder_of_isFolder (h : t.isFolder p = true) :
    t.makeFolder p = .error (.os .entryExists) := by
  obtain ⟨hnul, l, hlocate, hl⟩ := isFolder_iff.mp h
  obtain ⟨hsound, hroute, -⟩ := locate_iff.mp hlocate
  unfold makeFolder locateLast
  rw [hsound]
  cases hnames : p.names.reverse with
  | nil => simp [hnul]
  | cons name before =>
    have hforward : p.names = before.reverse ++ [name] := by
      rw [← List.reverse_reverse p.names, hnames, List.reverse_cons]
    rw [hforward] at hroute
    obtain ⟨m, hm, hlast⟩ := hroute.split
    have hwalk := walk_eq_ok_iff.mpr hm
    cases hlast with
    | dot hfolder => simp [hnul, hwalk, hfolder]
    | dots hfolder => simp [hnul, hwalk, hfolder]
    | name hfolder hname hnode =>
      simp [hnul, hwalk, hfolder, hname.notDot, hname.notDots, Nat.not_lt.mpr hname.limit, hnode]
    | link hfolder hname hlink =>
      have hnode := link?_eq_some_iff.mp hlink
      simp [hnul, hwalk, hfolder, hname.notDot, hname.notDots, Nat.not_lt.mpr hname.limit, hnode]

/-! ### Trees with the same folders -/

/-- The tree `t'` has the folders and symbolic links that the tree `t` has, and all that stands in
`t` or more. -/
structure SameFolders (t t' : Tree) : Prop where
  here : t'.here = t.here
  folder : ∀ l growable, t'.node? l = some (.folder growable) ↔ t.node? l = some (.folder growable)
  link : ∀ l, t'.link? l = t.link? l
  nothing : ∀ l, t'.node? l = none → t.node? l = none

namespace SameFolders

theorem refl (t : Tree) : SameFolders t t :=
  ⟨rfl, fun _ _ => Iff.rfl, fun _ => rfl, fun _ h => h⟩

/-- A file that is put where no folder and no link stands leaves all of them where they are. -/
theorem put_file (hno : t.hasFolder place = false) (hlink : t.link? place = none)
    (content : Text.Octets) : SameFolders t (t.put place (.file content)) := by
  have hplace := ne_nil_of_hasFolder_eq_false hno
  refine ⟨here_put t place _, fun l growable => ?_, fun l => ?_, fun l hl => ?_⟩
  · by_cases hl : l = place
    · subst hl
      have hnot : t.node? l ≠ some (.folder growable) := fun hfolder =>
        Bool.eq_false_iff.mp hno (hasFolder_eq_true_iff.mpr ⟨growable, hfolder⟩)
      simp [node?_put_self t hplace, hnot]
    · rw [node?_put_of_ne t hplace hl]
  · by_cases hl : l = place
    · rw [hl, link?_put_file_self t hplace, hlink]
    · rw [link?_put_of_ne t hplace hl]
  · rw [node?_put t hplace] at hl
    split_ifs at hl
    exact hl

variable (h : SameFolders t t')

include h

theorem hasFolder (l : Location) : t'.hasFolder l = t.hasFolder l := by
  rw [Bool.eq_iff_iff, hasFolder_eq_true_iff, hasFolder_eq_true_iff]
  exact exists_congr (h.folder l)

theorem keepsFolders : KeepsFolders t t' :=
  ⟨h.here, fun l hl => (h.hasFolder l).trans hl, fun l _ hlink => (h.link l).trans hlink⟩

theorem keepsFolders_symm : KeepsFolders t' t :=
  ⟨h.here.symm, fun l hl => (h.hasFolder l).symm.trans hl,
    fun l _ hlink => (h.link l).symm.trans hlink⟩

theorem locate_iff_of_folder (hl : t.hasFolder l = true) :
    t'.locate p = .ok l ↔ t.locate p = .ok l :=
  ⟨fun hp => locate_of_folders h.keepsFolders_symm hp (h.hasFolder l ▸ hl),
    fun hp => locate_of_folders h.keepsFolders hp hl⟩

theorem isFolder (p : Pathname) : t'.isFolder p = t.isFolder p := by
  rw [Bool.eq_iff_iff, isFolder_iff, isFolder_iff]
  refine and_congr_right fun _ => exists_congr fun l => ?_
  rw [h.hasFolder l]
  exact and_congr_left fun hl => h.locate_iff_of_folder hl

theorem last_iff {folder : Location} {name : String} :
    t'.Last p folder name ↔ t.Last p folder name :=
  ⟨Last.of_folders h.keepsFolders_symm, Last.of_folders h.keepsFolders⟩

/-- A folder that can be made in a tree can be made if there are fewer files. -/
theorem makeFolder_ok {u' : Tree} (hmake : t'.makeFolder p = .ok u') :
    ∃ u, t.makeFolder p = .ok u := by
  obtain ⟨hnul, folder, name, hlast, hlimit, hnone, hfolder, -⟩ := makeFolder_eq_ok_iff.mp hmake
  exact ⟨_, makeFolder_eq_ok_iff.mpr ⟨hnul, folder, name, h.last_iff.mp hlast, hlimit,
    h.nothing _ hnone, (h.folder _ _).mp hfolder, rfl⟩⟩

/-- Names that end where nothing stands end there if there are fewer files, as long as what is done
at links does. -/
theorem walkWith_noEntry
    {follow follow' : Location → Pathname → List String → Except OsError Location}
    (hfollow : ∀ folder target rest, follow' folder target rest = .error .noEntry →
      follow folder target rest = .error .noEntry)
    {names : List String} (hwalk : t'.walkWith follow' place names = .error .noEntry) :
    t.walkWith follow place names = .error .noEntry := by
  induction names generalizing place with
  | nil => exact nomatch hwalk
  | cons name rest ih =>
    cases hthere : t'.hasFolder place with
    | false =>
      have hnone : t'.node? place = none := by
        by_contra hsome
        simp [walkWith_noFolder hthere, hsome, OsError.notFolder, OsError.noEntry] at hwalk
      rw [walkWith_noFolder (h.hasFolder place ▸ hthere), if_pos (h.nothing _ hnone)]
    | true =>
      have hhere : t.hasFolder place = true := h.hasFolder place ▸ hthere
      by_cases hdot : name = "."
      · subst hdot
        rw [walkWith_dot hthere] at hwalk
        rw [walkWith_dot hhere, ih hwalk]
      by_cases hdots : name = ".."
      · subst hdots
        rw [walkWith_dots hthere] at hwalk
        rw [walkWith_dots hhere, ih hwalk]
      by_cases hlimit : nameLimit < name.utf8ByteSize
      · simp [walkWith_tooLong hthere hdot hdots hlimit, OsError.nameTooLong, OsError.noEntry]
          at hwalk
      have hname : IsName name := ⟨hdot, hdots, Nat.not_lt.mp hlimit⟩
      rw [walkWith_name hthere hname, h.link] at hwalk
      rw [walkWith_name hhere hname]
      split_ifs with hnone
      · rfl
      · rw [if_neg (mt (h.nothing _) hnone)] at hwalk
        cases hlink : t.link? (place ++ [name]) with
        | none => exact ih (by simpa only [hlink] using hwalk)
        | some target => exact hfollow _ _ _ (by simpa only [hlink] using hwalk)

theorem walk_noEntry {names : List String} (hwalk : t'.walk place names = .error .noEntry) :
    t.walk place names = .error .noEntry := by
  have hfollow (n : Nat) : ∀ folder target rest,
      t'.followUpTo n folder target rest = .error .noEntry →
        t.followUpTo n folder target rest = .error .noEntry := by
    induction n with
    | zero => exact fun _ _ _ hloop => hloop
    | succ n ih => exact fun _ _ _ hwalk => h.walkWith_noEntry ih hwalk
  exact h.walkWith_noEntry (hfollow linkLimit) hwalk

theorem locateLast_noEntry (hlast : t'.locateLast p = .error .noEntry) :
    t.locateLast p = .error .noEntry := by
  have hstart : t.start p = t'.start p := by rw [start, start, h.here]
  unfold locateLast at hlast ⊢
  cases hsound : sound p with
  | error e => simpa [hsound] using hlast
  | ok u =>
    simp only [hsound] at hlast ⊢
    cases hnames : p.names.reverse with
    | nil => simp [hnames] at hlast
    | cons name before =>
      simp only [hnames] at hlast ⊢
      cases hwalk : t'.walk (t'.start p) before.reverse with
      | error e =>
        simp only [hwalk, Except.error.injEq] at hlast
        subst hlast
        rw [hstart, h.walk_noEntry hwalk]
      | ok place =>
        simp only [hwalk] at hlast
        split_ifs at hlast
        simp [OsError.notFolder, OsError.noEntry] at hlast

/-- A folder that cannot be made since something is missing cannot be made for the same reason if
there are fewer files. -/
theorem makeFolder_noEntry (hmake : t'.makeFolder p = .error (.os .noEntry)) :
    t.makeFolder p = .error (.os .noEntry) := by
  unfold makeFolder at hmake ⊢
  by_cases hnul : p.hasNul = true
  · simp [hnul] at hmake
  rw [if_neg hnul] at hmake ⊢
  cases hlast : t'.locateLast p with
  | error e =>
    simp only [hlast, Except.error.injEq, IoError.os.injEq] at hmake
    subst hmake
    rw [h.locateLast_noEntry hlast]
  | ok last =>
    obtain ⟨folder, _ | name⟩ := last
    · simp [hlast, OsError.entryExists, OsError.noEntry] at hmake
    have hbefore := (h.last_iff.mp (last_of_locateLast hlast)).locateLast
    by_cases hlimit : nameLimit < name.utf8ByteSize
    · simp [hlast, hlimit, OsError.nameTooLong, OsError.noEntry] at hmake
    cases hnone : t'.node? (folder ++ [name]) with
    | some node => simp [hlast, hlimit, hnone, OsError.entryExists, OsError.noEntry] at hmake
    | none =>
      by_cases hfolder : t'.node? folder = some (.folder true)
      · simp [hlast, hlimit, hnone, hfolder] at hmake
      · have hsame : t.node? folder ≠ some (.folder true) := mt (h.folder _ _).mpr hfolder
        simp [hbefore, hlimit, h.nothing _ hnone, hsame]

theorem tempFolder_iff : t'.tempFolder p = .ok l ↔ t.tempFolder p = .ok l := by
  have hplace : t'.tempPlace p = t.tempPlace p := by
    rw [tempPlace, tempPlace, herePath, herePath, h.here]
  rw [tempFolder_eq_ok_iff, tempFolder_eq_ok_iff, hplace, h.folder l]
  refine and_congr_right fun _ => and_congr_right fun _ => and_congr_left fun hnode => ?_
  exact h.locate_iff_of_folder (hasFolder_eq_true_iff.mpr ⟨true, hnode⟩)

end SameFolders

end WidgetForge.Disk.Tree
