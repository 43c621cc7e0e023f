import WidgetForge.Disk.Save
import WidgetForge.Proofs.Disk.Calls
import WidgetForge.Proofs.Procedure.Ends

/-!
# Making folders takes nothing away

However the steps of `makeFolders` turn out, and whether it succeeds or not, all that was in the
tree is still there, and all that is new are folders to which the path or a path above it leads.
-/

namespace WidgetForge.Disk

open Procedure

/-- `AtOrAbove p q`: the path `q` is the path `p`, or it comes from it by taking last names away. -/
inductive AtOrAbove : Pathname → Pathname → Prop
  | self (p : Pathname) : AtOrAbove p p
  | parent {p q r : Pathname} : p.parent? = some q → AtOrAbove q r → AtOrAbove p r

/-- All that parts the tree `t'` from the tree `t` are new folders where these paths lead. -/
structure Grown (paths : Pathname → Prop) (t t' : Tree) : Prop where
  here : t'.here = t.here
  node : ∀ l, t'.node? l = t.node? l ∨
    (t.node? l = none ∧ t'.node? l = some (.folder true) ∧ ∃ q, paths q ∧ t'.locate q = .ok l)

namespace Grown

variable {paths : Pathname → Prop} {t t' t'' : Tree}

theorem refl (paths : Pathname → Prop) (t : Tree) : Grown paths t t := ⟨rfl, fun _ => Or.inl rfl⟩

/-- Nothing is lost. -/
theorem keeps (h : Grown paths t t') {l : Location} {node : Node} (hnode : t.node? l = some node) :
    t'.node? l = some node := by
  rcases h.node l with hsame | ⟨hnone, -, -⟩
  · rw [hsame, hnode]
  · rw [hnone] at hnode
    exact nomatch hnode

/-- Symbolic links are what they were. -/
theorem link? (h : Grown paths t t') (l : Location) : t'.link? l = t.link? l := by
  rcases h.node l with hsame | ⟨hnone, hnew, -⟩
  · simp only [Tree.link?, hsame]
  · simp only [Tree.link?, hnone, hnew]

theorem unlinked (h : Grown paths t t') (hlinks : t.Unlinked) : t'.Unlinked :=
  fun l => (h.link? l).trans (hlinks l)

theorem kept (h : Grown paths t t') : Tree.Kept t t' := by
  refine ⟨h.here, fun l hl => ?_, h.link?, fun l node hnode => ⟨node, h.keeps hnode⟩⟩
  obtain ⟨growable, hnode⟩ := Tree.hasFolder_eq_true_iff.mp hl
  exact Tree.hasFolder_eq_true_iff.mpr ⟨growable, h.keeps hnode⟩

/-- Files are what they were. -/
theorem file? (h : Grown paths t t') (l : Location) : t'.file? l = t.file? l := by
  rcases h.node l with hsame | ⟨hnone, hnew, -⟩
  · simp only [Tree.file?, hsame]
  · simp only [Tree.file?, hnone, hnew]

theorem trans (h : Grown paths t t') (h' : Grown paths t' t'') : Grown paths t t'' := by
  refine ⟨h'.here.trans h.here, fun l => ?_⟩
  rcases h.node l with hsame | ⟨hnone, hnew, q, hq, hlocate⟩
  · rw [← hsame]
    exact h'.node l
  · refine Or.inr ⟨hnone, h'.keeps hnew, q, hq, ?_⟩
    exact Tree.locate_of_kept h'.kept hlocate

theorem mono {others : Pathname → Prop} (h : Grown paths t t') (hsub : ∀ q, paths q → others q) :
    Grown others t t' := by
  refine ⟨h.here, fun l => (h.node l).imp_right ?_⟩
  rintro ⟨hnone, hnew, q, hq, hlocate⟩
  exact ⟨hnone, hnew, q, hsub q hq, hlocate⟩

/-- One folder has been made. -/
theorem of_makeFolder {p : Pathname} (hp : paths p) (h : t.makeFolder p = .ok t') :
    Grown paths t t' := by
  obtain ⟨place, hne, hnone, rfl, hlocate⟩ := Tree.makeFolder_ok h
  refine ⟨rfl, fun l => ?_⟩
  by_cases hl : l = place
  · subst hl
    exact Or.inr ⟨hnone, Tree.node?_put_self t hne _, p, hp, hlocate⟩
  · exact Or.inl (Tree.node?_put_of_ne t hne hl _)

end Grown

/-- The tree of a world has grown, and nothing else has changed. -/
def GrownIn (paths : Pathname → Prop) (w w' : World) : Prop :=
  ∃ t, w' = w.withTree t ∧ Grown paths w.tree t

section

variable {paths : Pathname → Prop} {w w' w'' : World} {p : Pathname}
  {result : Except IoError Unit}

theorem GrownIn.refl (paths : Pathname → Prop) (w : World) : GrownIn paths w w :=
  ⟨w.tree, rfl, Grown.refl paths w.tree⟩

theorem GrownIn.trans (h : GrownIn paths w w') (h' : GrownIn paths w' w'') :
    GrownIn paths w w'' := by
  obtain ⟨t, rfl, ht⟩ := h
  obtain ⟨u, rfl, hu⟩ := h'
  exact ⟨u, rfl, ht.trans hu⟩

theorem GrownIn.mono {others : Pathname → Prop} (h : GrownIn paths w w')
    (hsub : ∀ q, paths q → others q) : GrownIn others w w' := by
  obtain ⟨t, rfl, ht⟩ := h
  exact ⟨t, rfl, ht.mono hsub⟩

theorem perform_makeFolder_of_ok {t : Tree} (h : w.tree.makeFolder p = .ok t) :
    w.perform (.makeFolder p) = (.ok (), w.withTree t) := by
  simp [World.perform, World.change, h, Except.map]

theorem perform_makeFolder_of_error {e : IoError} (h : w.tree.makeFolder p = .error e) :
    w.perform (.makeFolder p) = (.error e, w) := by
  simp [World.perform, World.change, h, Except.map]

/-- A folder is made, or not. -/
theorem performWith_makeFolder (hp : paths p) (luck : Luck) :
    GrownIn paths w (w.performWith luck (.makeFolder p)).2 := by
  have hgood : GrownIn paths w (w.perform (.makeFolder p)).2 := by
    cases hmake : w.tree.makeFolder p with
    | error e =>
      rw [perform_makeFolder_of_error hmake]
      exact GrownIn.refl paths w
    | ok t =>
      rw [perform_makeFolder_of_ok hmake]
      exact ⟨t, rfl, Grown.of_makeFolder hp hmake⟩
  cases luck with
  | refused e => exact GrownIn.refl paths w
  | good => exact hgood
  | short n => exact hgood
  | named name => exact hgood

theorem done_grownIn {r : Except IoError Unit} (h : (done r).Ends w result w') :
    GrownIn paths w w' := by
  rw [(ends_done_iff.mp h).2]
  exact GrownIn.refl _ _

/-- To look for a folder changes nothing. -/
theorem unlessFolder_grownIn {e : IoError} (h : (unlessFolder p e).Ends w result w') :
    GrownIn paths w w' := by
  obtain ⟨luck, h⟩ := ends_step_iff.mp h
  have hsame : (w.performWith luck (.isFolder p)).2 = w := by cases luck <;> rfl
  rw [hsame] at h
  exact done_grownIn h

/-- A folder is made, and then there is more to do. -/
theorem makeFolder_grownIn {next : Except IoError Unit → Procedure (Except IoError Unit)}
    (hp : paths p) (hnext : ∀ reply v, (next reply).Ends v result w' → GrownIn paths v w')
    (h : (step (.makeFolder p) next).Ends w result w') : GrownIn paths w w' := by
  obtain ⟨luck, h⟩ := ends_step_iff.mp h
  exact (performWith_makeFolder hp luck).trans (hnext _ _ h)

theorem makeFoldersUpTo_grownIn {fuel : Nat} (h : (makeFoldersUpTo fuel p).Ends w result w') :
    GrownIn (AtOrAbove p) w w' := by
  induction fuel generalizing p w w' result with
  | zero => exact done_grownIn h
  | succ fuel ih =>
    unfold makeFoldersUpTo at h
    split at h
    · exact done_grownIn h
    refine makeFolder_grownIn (AtOrAbove.self p) (fun reply v h => ?_) h
    split at h
    · exact done_grownIn h
    split at h
    · split at h
      · exact done_grownIn h
      · next above habove =>
        -- the folders above are made first, then this one again
        obtain ⟨made, u, hmade, h⟩ := ends_bind_iff.mp h
        refine ((ih hmade).mono fun q => AtOrAbove.parent habove).trans ?_
        split at h
        · exact done_grownIn h
        · refine makeFolder_grownIn (AtOrAbove.self p) (fun reply v h => ?_) h
          split at h
          · exact done_grownIn h
          · exact unlessFolder_grownIn h
    · exact unlessFolder_grownIn h

/-- **Making folders takes nothing away**: what is new are folders to which the path or a path above
it leads, and nothing else has changed. -/
theorem makeFolders_grownIn (h : (makeFolders p).Ends w result w') : GrownIn (AtOrAbove p) w w' :=
  makeFoldersUpTo_grownIn h

end

end WidgetForge.Disk
