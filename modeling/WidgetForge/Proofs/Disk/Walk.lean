import WidgetForge.Disk.Walk
import WidgetForge.Proofs.Disk.Tree

/-!
# Where paths lead when trees change

A path is followed from folder to folder, and at a symbolic link it goes on where the link leads.
`Route` says step by step how names lead somewhere, and a walk succeeds exactly if there is a route.
So what a change does to files does not matter to where a path leads, as long as all folders and
links stay and the path ends at a folder; and what grows without losing anything keeps the ends of
all paths.
-/

namespace WidgetForge.Disk.Tree

/-! ### Routes -/

/-- A name that is looked for in a folder. -/
structure IsName (name : String) : Prop where
  notDot : name ≠ "."
  notDots : name ≠ ".."
  limit : name.utf8ByteSize ≤ nameLimit

/-- `Route t n place names l`: in the tree `t` the names lead from the location `place` to the
location `l`, past `n` symbolic links at most. -/
inductive Route (t : Tree) : Nat → Location → List String → Location → Prop where
  /-- No names lead nowhere else. -/
  | nil {n : Nat} {place : Location} : Route t n place [] place
  /-- A dot stays in a folder. -/
  | dot {n : Nat} {place l : Location} {rest : List String} :
      t.hasFolder place = true → Route t n place rest l → Route t n place ("." :: rest) l
  /-- A pair of dots goes back to the folder above. -/
  | dots {n : Nat} {place l : Location} {rest : List String} :
      t.hasFolder place = true → Route t n place.dropLast rest l → Route t n place (".." :: rest) l
  /-- A name goes on to what stands in the folder. -/
  | name {n : Nat} {place l : Location} {name : String} {rest : List String} {node : Node} :
      t.hasFolder place = true → IsName name → t.node? (place ++ [name]) = some node →
        t.link? (place ++ [name]) = none → Route t n (place ++ [name]) rest l →
          Route t n place (name :: rest) l
  /-- The name of a symbolic link gives way to the names of its target. -/
  | link {n : Nat} {place l : Location} {name : String} {rest : List String} {target : Pathname} :
      t.hasFolder place = true → IsName name → t.link? (place ++ [name]) = some target →
        Route t n (target.startFrom place) (target.steps ++ rest) l →
          Route t (n + 1) place (name :: rest) l

section

variable {t : Tree} {follow : Location → Pathname → List String → Except OsError Location}
  {place l : Location} {name : String} {names rest : List String} {n : Nat}

theorem walkWith_dot (hplace : t.hasFolder place = true) :
    t.walkWith follow place ("." :: rest) = t.walkWith follow place rest := by
  obtain ⟨growable, hnode⟩ := hasFolder_eq_true_iff.mp hplace
  simp [walkWith, hnode]

theorem walkWith_dots (hplace : t.hasFolder place = true) :
    t.walkWith follow place (".." :: rest) = t.walkWith follow place.dropLast rest := by
  obtain ⟨growable, hnode⟩ := hasFolder_eq_true_iff.mp hplace
  simp [walkWith, hnode]

theorem walkWith_tooLong (hplace : t.hasFolder place = true) (hdot : name ≠ ".")
    (hdots : name ≠ "..") (hlimit : nameLimit < name.utf8ByteSize) :
    t.walkWith follow place (name :: rest) = .error .nameTooLong := by
  obtain ⟨growable, hnode⟩ := hasFolder_eq_true_iff.mp hplace
  simp [walkWith, hnode, hdot, hdots, hlimit]

/-- Nothing but a folder holds names. -/
theorem walkWith_noFolder (hplace : t.hasFolder place = false) :
    t.walkWith follow place (name :: rest) =
      .error (if t.node? place = none then .noEntry else .notFolder) := by
  rw [walkWith]
  cases hnode : t.node? place with
  | none => rfl
  | some node =>
    cases node with
    | file content => rfl
    | device d => rfl
    | link target => rfl
    | folder growable => simp [hasFolder, hnode] at hplace

/-- What a name in a folder does: it goes on to what stands there, or to where a link leads. -/
theorem walkWith_name (hplace : t.hasFolder place = true) (hname : IsName name) :
    t.walkWith follow place (name :: rest) =
      if t.node? (place ++ [name]) = none then .error .noEntry
      else
        match t.link? (place ++ [name]) with
        | some target => follow place target rest
        | none => t.walkWith follow (place ++ [name]) rest := by
  obtain ⟨growable, hnode⟩ := hasFolder_eq_true_iff.mp hplace
  rw [walkWith, hnode]
  simp only [if_neg hname.notDot, if_neg hname.notDots, if_neg (Nat.not_lt.mpr hname.limit), link?]
  cases hnext : t.node? (place ++ [name]) with
  | none => rfl
  | some next => cases next <;> rfl

/-- What one more name does: it has to begin at a folder, and it stays, goes back, goes on or gives
way to a link. -/
theorem walkWith_cons_iff :
    t.walkWith follow place (name :: rest) = .ok l ↔ t.hasFolder place = true ∧
      ((name = "." ∧ t.walkWith follow place rest = .ok l) ∨
        (name = ".." ∧ t.walkWith follow place.dropLast rest = .ok l) ∨
        (IsName name ∧
          ((∃ node, t.node? (place ++ [name]) = some node ∧ t.link? (place ++ [name]) = none ∧
              t.walkWith follow (place ++ [name]) rest = .ok l) ∨
            ∃ target, t.link? (place ++ [name]) = some target ∧
              follow place target rest = .ok l))) := by
  cases hplace : t.hasFolder place with
  | false => simp [walkWith_noFolder hplace]
  | true =>
    by_cases hdot : name = "."
    · subst hdot
      have hno : ¬ IsName "." := fun h => h.notDot rfl
      simp [walkWith_dot hplace, hno]
    by_cases hdots : name = ".."
    · subst hdots
      have hno : ¬ IsName ".." := fun h => h.notDots rfl
      simp [walkWith_dots hplace, hno]
    by_cases hlimit : nameLimit < name.utf8ByteSize
    · have hno : ¬ IsName name := fun h => Nat.not_le.mpr hlimit h.limit
      simp [walkWith_tooLong hplace hdot hdots hlimit, hdot, hdots, hno]
    have hname : IsName name := ⟨hdot, hdots, Nat.not_lt.mp hlimit⟩
    rw [walkWith_name hplace hname]
    cases hnext : t.node? (place ++ [name]) with
    | none => simp [hdot, hdots, link?_eq_none_of_node?_eq_none hnext]
    | some next => cases hlink : t.link? (place ++ [name]) <;> simp [hdot, hdots, hname]

/-- A walk takes a route, if what is done at links does. -/
theorem route_of_walkWith
    (hfollow : ∀ folder target rest l, follow folder target rest = .ok l →
      ∃ m, n = m + 1 ∧ Route t m (target.startFrom folder) (target.steps ++ rest) l)
    (h : t.walkWith follow place names = .ok l) : Route t n place names l := by
  induction names generalizing place with
  | nil =>
    obtain rfl := Except.ok.inj h
    exact .nil
  | cons name rest ih =>
    obtain ⟨hplace, hnext⟩ := walkWith_cons_iff.mp h
    rcases hnext with
      ⟨rfl, hw⟩ | ⟨rfl, hw⟩ | ⟨hname, ⟨node, hnode, hlink, hw⟩ | ⟨target, hlink, hw⟩⟩
    · exact .dot hplace (ih hw)
    · exact .dots hplace (ih hw)
    · exact .name hplace hname hnode hlink (ih hw)
    · obtain ⟨m, rfl, hroute⟩ := hfollow _ _ _ _ hw
      exact .link hplace hname hlink hroute

/-- **A walk succeeds if there is a route**, and only then. -/
theorem walkUpTo_eq_ok_iff :
    t.walkWith (t.followUpTo n) place names = .ok l ↔ Route t n place names l := by
  constructor
  · induction n generalizing place l names with
    | zero => exact route_of_walkWith fun _ _ _ _ h => absurd h (by simp [followUpTo])
    | succ n ih => exact route_of_walkWith fun _ _ _ _ h => ⟨n, rfl, ih h⟩
  · intro h
    induction h with
    | nil => rfl
    | dot hplace _ ih => exact walkWith_cons_iff.mpr ⟨hplace, Or.inl ⟨rfl, ih⟩⟩
    | dots hplace _ ih => exact walkWith_cons_iff.mpr ⟨hplace, Or.inr (Or.inl ⟨rfl, ih⟩)⟩
    | name hplace hname hnode hlink _ ih =>
      exact walkWith_cons_iff.mpr
        ⟨hplace, Or.inr (Or.inr ⟨hname, Or.inl ⟨_, hnode, hlink, ih⟩⟩)⟩
    | link hplace hname hlink _ ih =>
      exact walkWith_cons_iff.mpr ⟨hplace, Or.inr (Or.inr ⟨hname, Or.inr ⟨_, hlink, ih⟩⟩)⟩

theorem walk_eq_ok_iff : t.walk place names = .ok l ↔ Route t linkLimit place names l :=
  walkUpTo_eq_ok_iff

end

namespace Route

variable {t t' : Tree} {n k : Nat} {place m l : Location} {names rest : List String}

/-- A route that ends at a folder began at one. -/
theorem hasFolder (h : Route t n place names l) (hl : t.hasFolder l = true) :
    t.hasFolder place = true := by
  cases h with
  | nil => exact hl
  | dot hplace => exact hplace
  | dots hplace => exact hplace
  | name hplace => exact hplace
  | link hplace => exact hplace

/-- A route may come past fewer links than it might. -/
theorem add (h : Route t n place names l) (k : Nat) : Route t (n + k) place names l := by
  induction h with
  | nil => exact .nil
  | dot hplace _ ih => exact .dot hplace ih
  | dots hplace _ ih => exact .dots hplace ih
  | name hplace hname hnode hlink _ ih => exact .name hplace hname hnode hlink ih
  | link hplace hname hlink _ ih =>
    rw [Nat.succ_add]
    exact .link hplace hname hlink ih

/-- Routes are followed one after the other. -/
theorem append (h : Route t n place names m) (h' : Route t k m rest l) :
    Route t (n + k) place (names ++ rest) l := by
  induction h with
  | nil => exact Nat.add_comm k _ ▸ h'.add _
  | dot hplace _ ih => exact .dot hplace (ih h')
  | dots hplace _ ih => exact .dots hplace (ih h')
  | name hplace hname hnode hlink _ ih => exact .name hplace hname hnode hlink (ih h')
  | link hplace hname hlink _ ih =>
    rw [Nat.succ_add]
    exact .link hplace hname hlink (List.append_assoc _ _ _ ▸ ih h')

/-- A route comes past every place on the way. -/
theorem split (h : Route t n place (names ++ rest) l) :
    ∃ m, Route t n place names m ∧ Route t n m rest l := by
  generalize hall : names ++ rest = all at h
  induction h generalizing names with
  | nil =>
    obtain ⟨rfl, rfl⟩ := List.append_eq_nil_iff.mp hall
    exact ⟨_, .nil, .nil⟩
  | dot hplace hroute ih =>
    rcases List.append_eq_cons_iff.mp hall with ⟨rfl, rfl⟩ | ⟨names, rfl, htail⟩
    · exact ⟨_, .nil, .dot hplace hroute⟩
    · obtain ⟨m, hm, hrest⟩ := ih htail.symm
      exact ⟨m, .dot hplace hm, hrest⟩
  | dots hplace hroute ih =>
    rcases List.append_eq_cons_iff.mp hall with ⟨rfl, rfl⟩ | ⟨names, rfl, htail⟩
    · exact ⟨_, .nil, .dots hplace hroute⟩
    · obtain ⟨m, hm, hrest⟩ := ih htail.symm
      exact ⟨m, .dots hplace hm, hrest⟩
  | name hplace hname hnode hlink hroute ih =>
    rcases List.append_eq_cons_iff.mp hall with ⟨rfl, rfl⟩ | ⟨names, rfl, htail⟩
    · exact ⟨_, .nil, .name hplace hname hnode hlink hroute⟩
    · obtain ⟨m, hm, hrest⟩ := ih htail.symm
      exact ⟨m, .name hplace hname hnode hlink hm, hrest⟩
  | link hplace hname hlink hroute ih =>
    rcases List.append_eq_cons_iff.mp hall with ⟨rfl, rfl⟩ | ⟨names, rfl, rfl⟩
    · exact ⟨_, .nil, .link hplace hname hlink hroute⟩
    · obtain ⟨m, hm, hrest⟩ := ih (List.append_assoc _ names rest)
      exact ⟨m, .link hplace hname hlink hm, hrest.add 1⟩

end Route

/-! ### Trees that keep what is there -/

/-- The tree `t'` has all folders and symbolic links of the tree `t`. -/
structure KeepsFolders (t t' : Tree) : Prop where
  here : t'.here = t.here
  folder : ∀ l, t.hasFolder l = true → t'.hasFolder l = true
  link : ∀ l target, t.link? l = some target → t'.link? l = some target

/-- A route to a folder meets nothing but folders and links, so it is the same in every tree that
has them. -/
theorem Route.of_folders {t t' : Tree} (hkeeps : KeepsFolders t t') {n : Nat}
    {place l : Location} {names : List String} (h : Route t n place names l)
    (hl : t.hasFolder l = true) : Route t' n place names l := by
  induction h with
  | nil => exact .nil
  | dot hplace _ ih => exact .dot (hkeeps.folder _ hplace) (ih hl)
  | dots hplace _ ih => exact .dots (hkeeps.folder _ hplace) (ih hl)
  | name hplace hname _ _ hroute ih =>
    have hnext := hkeeps.folder _ (hroute.hasFolder hl)
    obtain ⟨growable, hnode⟩ := hasFolder_eq_true_iff.mp hnext
    exact .name (hkeeps.folder _ hplace) hname hnode (link?_eq_none_of_hasFolder hnext) (ih hl)
  | link hplace hname hlink _ ih =>
    exact .link (hkeeps.folder _ hplace) hname (hkeeps.link _ _ hlink) (ih hl)

/-- Whatever is in the tree `t` is still there in the tree `t'`: something at each location, a
folder where there was one, and the symbolic links, to which none have been added. What files hold
does not matter. -/
structure Kept (t t' : Tree) : Prop where
  here : t'.here = t.here
  folder : ∀ l, t.hasFolder l = true → t'.hasFolder l = true
  link : ∀ l, t'.link? l = t.link? l
  node : ∀ l node, t.node? l = some node → ∃ node', t'.node? l = some node'

theorem Kept.refl (t : Tree) : Kept t t :=
  ⟨rfl, fun _ h => h, fun _ => rfl, fun _ node h => ⟨node, h⟩⟩

theorem Kept.unlinked {t t' : Tree} (h : Kept t t') (hlinks : t.Unlinked) : t'.Unlinked :=
  fun l => (h.link l).trans (hlinks l)

theorem Kept.trans {t t' t'' : Tree} (h : Kept t t') (h' : Kept t' t'') : Kept t t'' := by
  refine ⟨h'.here.trans h.here, fun l hl => h'.folder l (h.folder l hl),
    fun l => (h'.link l).trans (h.link l), fun l node hnode => ?_⟩
  obtain ⟨node', hnode'⟩ := h.node l node hnode
  exact h'.node l node' hnode'

/-- A route is the same in every tree that has all that is there. -/
theorem Route.of_kept {t t' : Tree} (hkept : Kept t t') {n : Nat} {place l : Location}
    {names : List String} (h : Route t n place names l) : Route t' n place names l := by
  induction h with
  | nil => exact .nil
  | dot hplace _ ih => exact .dot (hkept.folder _ hplace) ih
  | dots hplace _ ih => exact .dots (hkept.folder _ hplace) ih
  | name hplace hname hnode hlink _ ih =>
    obtain ⟨node', hnode'⟩ := hkept.node _ _ hnode
    exact .name (hkept.folder _ hplace) hname hnode' ((hkept.link _).trans hlink) ih
  | link hplace hname hlink _ ih =>
    exact .link (hkept.folder _ hplace) hname ((hkept.link _).trans hlink) ih

/-! ### Where a path leads -/

/-- A path leads to the end of its route, which is a folder if the path ends with a slash. -/
theorem locate_iff {t : Tree} {p : Pathname} {l : Location} :
    t.locate p = .ok l ↔ sound p = .ok () ∧
      Route t linkLimit (t.start p) p.names l ∧
      (p.endsWithSlash = true → t.hasFolder l = true) := by
  rw [← walk_eq_ok_iff]
  unfold Tree.locate
  cases hsound : sound p with
  | error e => simp
  | ok u =>
    cases hwalk : t.walk (t.start p) p.names with
    | error e => simp
    | ok place =>
      by_cases hslash : p.endsWithSlash = true
      · cases hfolder : t.hasFolder place with
        | false =>
          simp only [hslash, hfolder, Bool.not_false, Bool.and_self, if_true, reduceCtorEq,
            false_iff, Except.ok.injEq, forall_const, not_and, true_and]
          rintro rfl
          simp [hfolder]
        | true =>
          simp only [hslash, hfolder, Bool.not_true, Bool.and_false, Bool.false_eq_true, if_false,
            Except.ok.injEq, forall_const, true_and, iff_self_and]
          rintro rfl
          exact hfolder
      · simp [hslash]

/-- A path leads to the same place in every tree that has all that is there. -/
theorem locate_of_kept {t t' : Tree} (hkept : Kept t t') {p : Pathname} {l : Location}
    (h : t.locate p = .ok l) : t'.locate p = .ok l := by
  obtain ⟨hsound, hroute, hslash⟩ := locate_iff.mp h
  have hstart : t'.start p = t.start p := by simp [start, hkept.here]
  exact locate_iff.mpr ⟨hsound, hstart ▸ hroute.of_kept hkept,
    fun hends => hkept.folder _ (hslash hends)⟩

/-- A path that leads to a folder leads there in every tree that has all folders and links. -/
theorem locate_of_folders {t t' : Tree} (hkeeps : KeepsFolders t t') {p : Pathname} {l : Location}
    (h : t.locate p = .ok l) (hl : t.hasFolder l = true) : t'.locate p = .ok l := by
  obtain ⟨hsound, hroute, -⟩ := locate_iff.mp h
  have hstart : t'.start p = t.start p := by simp [start, hkeeps.here]
  exact locate_iff.mpr ⟨hsound, hstart ▸ hroute.of_folders hkeeps hl, fun _ => hkeeps.folder _ hl⟩

/-! ### The last name of a path -/

/-- The path `p` ends in the name `name`, which is looked for in the folder at `folder`. -/
structure Last (t : Tree) (p : Pathname) (folder : Location) (name : String) : Prop where
  sound : sound p = .ok ()
  names : ∃ before, p.names = before ++ [name] ∧ Route t linkLimit (t.start p) before folder
  hasFolder : t.hasFolder folder = true
  isName : name ≠ "." ∧ name ≠ ".."

theorem last_of_locateLast {t : Tree} {p : Pathname} {folder : Location} {name : String}
    (h : t.locateLast p = .ok (folder, some name)) : t.Last p folder name := by
  unfold locateLast at h
  cases hsound : sound p with
  | error e => simp [hsound] at h
  | ok u =>
    cases hnames : p.names.reverse with
    | nil => simp [hsound, hnames] at h
    | cons last before =>
      cases hwalk : t.walk (t.start p) before.reverse with
      | error e => simp [hsound, hnames, hwalk] at h
      | ok place =>
        cases hfolder : t.hasFolder place with
        | false => simp [hsound, hnames, hwalk, hfolder] at h
        | true =>
          by_cases hdots : last = "." ∨ last = ".."
          · simp [hsound, hnames, hwalk, hfolder, hdots] at h
          · simp only [hsound, hnames, hwalk, hfolder, Bool.not_true, Bool.false_eq_true, if_false,
              Bool.or_eq_true, decide_eq_true_eq, hdots, Except.ok.injEq, Prod.mk.injEq,
              Option.some.injEq] at h
            obtain ⟨rfl, rfl⟩ := h
            refine ⟨hsound, ⟨before.reverse, ?_, walk_eq_ok_iff.mp hwalk⟩, hfolder, not_or.mp hdots⟩
            rw [← List.reverse_reverse p.names, hnames, List.reverse_cons]

theorem Last.locateLast {t : Tree} {p : Pathname} {folder : Location} {name : String}
    (h : t.Last p folder name) : t.locateLast p = .ok (folder, some name) := by
  obtain ⟨before, hnames, hroute⟩ := h.names
  have hwalk := walk_eq_ok_iff.mpr hroute
  have hreverse : p.names.reverse = name :: before.reverse := by simp [hnames]
  simp [Tree.locateLast, h.sound, hreverse, hwalk, h.hasFolder, h.isName]

/-- The last name of a path stays where it is looked for, as long as all folders and links stay. -/
theorem Last.of_folders {t t' : Tree} (hkeeps : KeepsFolders t t') {p : Pathname}
    {folder : Location} {name : String} (h : t.Last p folder name) : t'.Last p folder name := by
  obtain ⟨before, hnames, hroute⟩ := h.names
  have hstart : t'.start p = t.start p := by simp [start, hkeeps.here]
  exact ⟨h.sound, ⟨before, hnames, hstart ▸ hroute.of_folders hkeeps h.hasFolder⟩,
    hkeeps.folder _ h.hasFolder, h.isName⟩

/-- A path leads to its last name, if something of this name is there that is no link. -/
theorem Last.locate {t : Tree} {p : Pathname} {folder : Location} {name : String}
    (h : t.Last p folder name) (hlimit : name.utf8ByteSize ≤ nameLimit) {node : Node}
    (hnode : t.node? (folder ++ [name]) = some node) (hlink : t.link? (folder ++ [name]) = none)
    (hslash : p.endsWithSlash = true → t.hasFolder (folder ++ [name]) = true) :
    t.locate p = .ok (folder ++ [name]) := by
  obtain ⟨before, hnames, hroute⟩ := h.names
  have hlast : Route t 0 folder [name] (folder ++ [name]) :=
    .name h.hasFolder ⟨h.isName.1, h.isName.2, hlimit⟩ hnode hlink .nil
  exact locate_iff.mpr ⟨h.sound, hnames ▸ hroute.append hlast, hslash⟩

/-- Where a file would stand that is saved to a path: the location of its last name. -/
def destination? (t : Tree) (p : Pathname) : Option Location :=
  match t.locateLast p with
  | .ok (folder, some name) => some (folder ++ [name])
  | _ => none

theorem destination?_eq_some_iff {t : Tree} {p : Pathname} {l : Location} :
    t.destination? p = some l ↔ ∃ folder name, t.Last p folder name ∧ l = folder ++ [name] := by
  constructor
  · intro h
    unfold destination? at h
    split at h
    · next folder name hlast =>
      exact ⟨folder, name, last_of_locateLast hlast, (Option.some.inj h).symm⟩
    · exact nomatch h
  · rintro ⟨folder, name, hlast, rfl⟩
    simp [destination?, hlast.locateLast]

/-- Files are saved to the same place as long as all folders and links stay. -/
theorem destination?_of_folders {t t' : Tree} (hkeeps : KeepsFolders t t') {p : Pathname}
    {l : Location} (h : t.destination? p = some l) : t'.destination? p = some l := by
  obtain ⟨folder, name, hlast, rfl⟩ := destination?_eq_some_iff.mp h
  exact destination?_eq_some_iff.mpr ⟨folder, name, hlast.of_folders hkeeps, rfl⟩

end WidgetForge.Disk.Tree
