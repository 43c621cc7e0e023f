import WidgetForge.Proofs.Disk.Folders
import WidgetForge.Proofs.Disk.SameFolders
import WidgetForge.Proofs.Procedure.Run

/-!
# Making folders again

What `makeFolders` has not brought about it does not bring about when it is run again, and it leaves
the tree alone then, though the first run may have made some of the folders above and though files
may have come into being in them. For when it fails, the path is `Hopeless` in the tree that it
leaves: the place where it got stuck is still there.
-/

namespace WidgetForge.Disk

open Procedure

/-- No folder can be made at the path in the tree `t`, and nothing is made by trying. -/
inductive Hopeless (t : Tree) : Pathname → Prop
  /-- The folder cannot be made though nothing is missing. -/
  | refused {p : Pathname} {e : IoError} : t.makeFolder p = .error e → e ≠ .os .noEntry →
      t.isFolder p = false → Hopeless t p
  /-- Something is missing, and there is no path above. -/
  | alone {p : Pathname} : p.text ≠ "" → t.makeFolder p = .error (.os .noEntry) →
      p.parent? = none → Hopeless t p
  /-- Something is missing, and it cannot be made. -/
  | above {p q : Pathname} : t.makeFolder p = .error (.os .noEntry) → p.parent? = some q →
      Hopeless t q → Hopeless t p
  /-- Something is missing, and it is not the folder above. -/
  | closed {p q : Pathname} : t.makeFolder p = .error (.os .noEntry) → p.parent? = some q →
      q.text = "" ∨ t.isFolder q = true → Hopeless t p

namespace Hopeless

variable {t t' : Tree} {p q : Pathname}

theorem makeFolder (h : Hopeless t p) : ∃ e, t.makeFolder p = .error e := by
  cases h with
  | refused hmake => exact ⟨_, hmake⟩
  | alone _ hmake => exact ⟨_, hmake⟩
  | above hmake => exact ⟨_, hmake⟩
  | closed hmake => exact ⟨_, hmake⟩

theorem isFolder_of_noEntry (h : t.makeFolder p = .error (.os .noEntry)) :
    t.isFolder p = false := by
  refine Bool.eq_false_iff.mpr fun hfolder => ?_
  rw [Tree.makeFolder_of_isFolder hfolder] at h
  simp [OsError.entryExists, OsError.noEntry] at h

theorem isFolder (h : Hopeless t p) : t.isFolder p = false := by
  cases h with
  | refused _ _ hfolder => exact hfolder
  | alone _ hmake => exact isFolder_of_noEntry hmake
  | above hmake => exact isFolder_of_noEntry hmake
  | closed hmake => exact isFolder_of_noEntry hmake

theorem text_ne (h : Hopeless t p) : p.text ≠ "" := by
  cases h with
  | alone hne => exact hne
  | above _ hparent => exact (Pathname.begins_of_parent? hparent).text_ne
  | closed _ hparent => exact (Pathname.begins_of_parent? hparent).text_ne
  | refused hmake hentry =>
    rintro hempty
    obtain rfl : p = ⟨""⟩ := congrArg Pathname.mk hempty
    exact hentry (Except.error.inj hmake).symm

/-- Where the path above is hopeless, the path is. -/
theorem of_parent (h : Hopeless t q) (hparent : p.parent? = some q) : Hopeless t p := by
  cases hmake : t.makeFolder p with
  | ok t' =>
    have hfolder := Tree.isFolder_parent_of_makeFolder hparent h.text_ne hmake
    exact nomatch h.isFolder.symm.trans hfolder
  | error e =>
    by_cases hentry : e = .os .noEntry
    · exact .above (hentry ▸ hmake) hparent h
    · refine .refused hmake hentry (Bool.eq_false_iff.mpr fun hfolder => ?_)
      exact nomatch h.isFolder.symm.trans (Tree.isFolder_parent hparent h.text_ne hfolder)

/-- Among more files the folder is refused for another reason, or something is still missing. -/
theorem noEntry_or (h : Hopeless t p) (hsame : t.SameFolders t') :
    Hopeless t' p ∨ t'.makeFolder p = .error (.os .noEntry) := by
  cases hmake : t'.makeFolder p with
  | ok u' =>
    obtain ⟨u, hu⟩ := hsame.makeFolder_ok hmake
    obtain ⟨e, he⟩ := h.makeFolder
    exact nomatch hu.symm.trans he
  | error e =>
    by_cases hentry : e = .os .noEntry
    · exact Or.inr (hentry ▸ rfl)
    · exact Or.inl (.refused hmake hentry ((hsame.isFolder p).trans h.isFolder))

/-- More files give no hope. -/
theorem of_sameFolders (h : Hopeless t p) (hsame : t.SameFolders t') : Hopeless t' p := by
  refine (h.noEntry_or hsame).elim id fun hentry => ?_
  induction h with
  | refused hmake hother =>
    exact absurd (Except.error.inj (hmake.symm.trans (hsame.makeFolder_noEntry hentry))) hother
  | alone hne _ hparent => exact .alone hne hentry hparent
  | above _ hparent habove ih =>
    exact .above hentry hparent ((habove.noEntry_or hsame).elim id ih)
  | @closed p q _ hparent hfolder =>
    exact .closed hentry hparent (hfolder.imp_right (hsame.isFolder q).trans)

end Hopeless

/-! ### Runs -/

section

variable {w w' v : World} {p q : Pathname} {e : IoError} {t : Tree} {fuel : Nat}

/-- Makes a folder, or finds one. -/
def makeOrFind (p : Pathname) : Procedure (Except IoError Unit) :=
  .step (.makeFolder p) fun reply =>
    match reply with
    | .ok () => .done (.ok ())
    | .error e => unlessFolder p e

theorem makeFoldersUpTo_eq (hne : p.text ≠ "") :
    makeFoldersUpTo (fuel + 1) p =
      .step (.makeFolder p) fun reply =>
        match reply with
        | .ok () => .done (.ok ())
        | .error e =>
          if e = .os .noEntry then
            match p.parent? with
            | none => .done (.error (.other "failed to create whole tree"))
            | some above =>
              (makeFoldersUpTo fuel above).bind fun made =>
                match made with
                | .error e => .done (.error e)
                | .ok () => makeOrFind p
          else unlessFolder p e := by
  rw [makeFoldersUpTo, if_neg (by simpa using hne)]
  rfl

theorem run_makeOrFind_of_ok (h : w.tree.makeFolder p = .ok t) :
    (makeOrFind p).run w = (.ok (), w.withTree t) := by
  rw [makeOrFind, run, perform_makeFolder_of_ok h]
  rfl

theorem run_makeOrFind_of_error (h : w.tree.makeFolder p = .error e) :
    (makeOrFind p).run w = (if w.tree.isFolder p then .ok () else .error e, w) := by
  rw [makeOrFind, run, perform_makeFolder_of_error h]
  rfl

/-- For the empty path there is nothing to make. -/
theorem run_makeFoldersUpTo_of_empty (hempty : p.text = "") :
    (makeFoldersUpTo (fuel + 1) p).run w = (.ok (), w) := by
  rw [makeFoldersUpTo, if_pos (by simpa using hempty)]
  rfl

theorem run_makeFoldersUpTo_of_ok (hne : p.text ≠ "") (h : w.tree.makeFolder p = .ok t) :
    (makeFoldersUpTo (fuel + 1) p).run w = (.ok (), w.withTree t) := by
  rw [makeFoldersUpTo_eq hne, run, perform_makeFolder_of_ok h]
  rfl

/-- Unless something is missing, no folder above is made. -/
theorem run_makeFoldersUpTo_of_refused (hne : p.text ≠ "") (h : w.tree.makeFolder p = .error e)
    (hentry : e ≠ .os .noEntry) :
    (makeFoldersUpTo (fuel + 1) p).run w =
      (if w.tree.isFolder p then .ok () else .error e, w) := by
  rw [makeFoldersUpTo_eq hne, run, perform_makeFolder_of_error h]
  simp only [if_neg hentry]
  rfl

theorem run_makeFoldersUpTo_of_alone (hne : p.text ≠ "")
    (h : w.tree.makeFolder p = .error (.os .noEntry)) (hparent : p.parent? = none) :
    (makeFoldersUpTo (fuel + 1) p).run w = (.error (.other "failed to create whole tree"), w) := by
  rw [makeFoldersUpTo_eq hne, run, perform_makeFolder_of_error h]
  simp only [hparent]
  rfl

/-- If something is missing, the folders above are made first. -/
theorem run_makeFoldersUpTo_of_parent (h : w.tree.makeFolder p = .error (.os .noEntry))
    (hparent : p.parent? = some q) :
    (makeFoldersUpTo (fuel + 1) p).run w =
      match (makeFoldersUpTo fuel q).run w with
      | (.error e, v) => (.error e, v)
      | (.ok (), v) => (makeOrFind p).run v := by
  have hne := (Pathname.begins_of_parent? hparent).text_ne
  rw [makeFoldersUpTo_eq hne, run, perform_makeFolder_of_error h]
  simp only [hparent, if_true, run_bind]
  obtain ⟨made, v⟩ := (makeFoldersUpTo fuel q).run w
  cases made with
  | ok u => rfl
  | error e => rfl

/-! ### What a run leaves -/

theorem isFolder_of_makeOrFind (h : (makeOrFind p).run w = (.ok (), w')) :
    w'.tree.isFolder p = true := by
  cases hmake : w.tree.makeFolder p with
  | ok t =>
    rw [run_makeOrFind_of_ok hmake] at h
    obtain rfl := (Prod.mk.inj h).2
    exact Tree.isFolder_of_makeFolder hmake
  | error e =>
    rw [run_makeOrFind_of_error hmake] at h
    obtain ⟨hreply, rfl⟩ := Prod.mk.inj h
    by_contra hfolder
    simp [hfolder] at hreply

/-- Below a folder that is there the last step has failed. -/
theorem hopeless_of_makeOrFind (hparent : p.parent? = some q)
    (habove : q.text = "" ∨ w.tree.isFolder q = true)
    (h : (makeOrFind p).run w = (.error e, w')) : Hopeless w'.tree p := by
  cases hmake : w.tree.makeFolder p with
  | ok t =>
    rw [run_makeOrFind_of_ok hmake] at h
    exact nomatch (Prod.mk.inj h).1
  | error e =>
    rw [run_makeOrFind_of_error hmake] at h
    obtain ⟨hreply, rfl⟩ := Prod.mk.inj h
    by_cases hentry : e = .os .noEntry
    · exact .closed (hentry ▸ hmake) hparent habove
    · refine .refused hmake hentry (Bool.eq_false_iff.mpr fun hfolder => ?_)
      simp [hfolder] at hreply

/-- Folders have been made, so the folder is there. -/
theorem isFolder_of_makeFoldersUpTo (h : (makeFoldersUpTo fuel p).run w = (.ok (), w')) :
    p.text = "" ∨ w'.tree.isFolder p = true := by
  cases fuel with
  | zero => exact nomatch (Prod.mk.inj h).1
  | succ fuel =>
    refine or_iff_not_imp_left.mpr fun hne => ?_
    cases hmake : w.tree.makeFolder p with
    | ok t =>
      rw [run_makeFoldersUpTo_of_ok hne hmake] at h
      obtain rfl := (Prod.mk.inj h).2
      exact Tree.isFolder_of_makeFolder hmake
    | error e =>
      by_cases hentry : e = .os .noEntry
      · subst hentry
        cases hparent : p.parent? with
        | none =>
          rw [run_makeFoldersUpTo_of_alone hne hmake hparent] at h
          exact nomatch (Prod.mk.inj h).1
        | some q =>
          rw [run_makeFoldersUpTo_of_parent hmake hparent] at h
          split at h
          · exact nomatch (Prod.mk.inj h).1
          · exact isFolder_of_makeOrFind h
      · rw [run_makeFoldersUpTo_of_refused hne hmake hentry] at h
        obtain ⟨hreply, rfl⟩ := Prod.mk.inj h
        by_contra hfolder
        simp [hfolder] at hreply

/-- Making folders has failed, so the path is hopeless. The induction is on the folders above, of
which there are no more than characters in the path. -/
theorem hopeless_of_makeFoldersUpTo (hfuel : p.text.length < fuel)
    (h : (makeFoldersUpTo fuel p).run w = (.error e, w')) : Hopeless w'.tree p := by
  induction fuel generalizing p w w' e with
  | zero => exact absurd hfuel (Nat.not_lt_zero _)
  | succ fuel ih =>
    have hne : p.text ≠ "" := by
      intro hempty
      rw [run_makeFoldersUpTo_of_empty hempty] at h
      exact nomatch (Prod.mk.inj h).1
    cases hmake : w.tree.makeFolder p with
    | ok t =>
      rw [run_makeFoldersUpTo_of_ok hne hmake] at h
      exact nomatch (Prod.mk.inj h).1
    | error e =>
      by_cases hentry : e = .os .noEntry
      · subst hentry
        cases hparent : p.parent? with
        | none =>
          rw [run_makeFoldersUpTo_of_alone hne hmake hparent] at h
          obtain rfl := (Prod.mk.inj h).2
          exact .alone hne hmake hparent
        | some q =>
          have hshort := (Pathname.begins_of_parent? hparent).length_lt
          rw [run_makeFoldersUpTo_of_parent hmake hparent] at h
          split at h
          · next v habove =>
            obtain rfl := (Prod.mk.inj h).2
            exact (ih (by omega) habove).of_parent hparent
          · next v habove =>
            exact hopeless_of_makeOrFind hparent (isFolder_of_makeFoldersUpTo habove) h
      · rw [run_makeFoldersUpTo_of_refused hne hmake hentry] at h
        obtain ⟨hreply, rfl⟩ := Prod.mk.inj h
        refine .refused hmake hentry (Bool.eq_false_iff.mpr fun hfolder => ?_)
        simp [hfolder] at hreply

/-- The folder is there, so nothing is left to be made. -/
theorem run_makeFoldersUpTo_of_isFolder (h : w.tree.isFolder p = true) :
    (makeFoldersUpTo (fuel + 1) p).run w = (.ok (), w) := by
  by_cases hempty : p.text = ""
  · exact run_makeFoldersUpTo_of_empty hempty
  · rw [run_makeFoldersUpTo_of_refused hempty (Tree.makeFolder_of_isFolder h) (by decide), if_pos h]

/-- The path is hopeless, so nothing is made. -/
theorem run_makeFoldersUpTo_of_hopeless (hfuel : p.text.length < fuel) (h : Hopeless w.tree p) :
    ∃ e, (makeFoldersUpTo fuel p).run w = (.error e, w) := by
  obtain ⟨fuel, rfl⟩ : ∃ n, fuel = n + 1 := ⟨fuel - 1, by omega⟩
  induction h generalizing fuel with
  | @refused p e hmake hentry hfolder =>
    have hne := (Hopeless.refused hmake hentry hfolder).text_ne
    refine ⟨e, ?_⟩
    rw [run_makeFoldersUpTo_of_refused hne hmake hentry, if_neg (by simp [hfolder])]
  | alone hne hmake hparent => exact ⟨_, run_makeFoldersUpTo_of_alone hne hmake hparent⟩
  | @above p q hmake hparent _ ih =>
    have hshort := (Pathname.begins_of_parent? hparent).length_lt
    obtain ⟨fuel, rfl⟩ : ∃ n, fuel = n + 1 := ⟨fuel - 1, by omega⟩
    obtain ⟨e, he⟩ := ih fuel (by omega)
    exact ⟨e, by rw [run_makeFoldersUpTo_of_parent hmake hparent, he]⟩
  | @closed p q hmake hparent hfolder =>
    have hshort := (Pathname.begins_of_parent? hparent).length_lt
    obtain ⟨fuel, rfl⟩ : ∃ n, fuel = n + 1 := ⟨fuel - 1, by omega⟩
    have habove : (makeFoldersUpTo (fuel + 1) q).run w = (.ok (), w) :=
      hfolder.elim run_makeFoldersUpTo_of_empty run_makeFoldersUpTo_of_isFolder
    refine ⟨.os .noEntry, ?_⟩
    rw [run_makeFoldersUpTo_of_parent hmake hparent, habove]
    simp [run_makeOrFind_of_error hmake, Hopeless.isFolder_of_noEntry hmake]

/-- **Folders that have been made are found**: they are not made again, and nothing changes. -/
theorem makeFolders_again (h : (makeFolders p).run w = (.ok (), w'))
    (hsame : w'.tree.SameFolders v.tree) : (makeFolders p).run v = (.ok (), v) := by
  rcases isFolder_of_makeFoldersUpTo h with hempty | hfolder
  · exact run_makeFoldersUpTo_of_empty hempty
  · exact run_makeFoldersUpTo_of_isFolder ((hsame.isFolder p).trans hfolder)

/-- **Folders that could not be made can still not be made**, and nothing changes. -/
theorem makeFolders_again_fails (h : (makeFolders p).run w = (.error e, w'))
    (hsame : w'.tree.SameFolders v.tree) : ∃ e', (makeFolders p).run v = (.error e', v) :=
  run_makeFoldersUpTo_of_hopeless (Nat.lt_succ_self _)
    ((hopeless_of_makeFoldersUpTo (Nat.lt_succ_self _) h).of_sameFolders hsame)

end

end WidgetForge.Disk
