import Mathlib.Logic.Function.Basic
import WidgetForge.Proofs.Disk.Protocol

/-!
# Saving files side by side

Any number of calls save files at the same time, to one path or to several. They take their steps in
turn, in any order, and every step may have any luck.

At every time a location holds the content of the last call that has moved its file there, or what
stood there at the beginning if none has (`settled`). The temporary files are the only exceptions,
and they stand where nothing is saved. `Sound` is the invariant that says so: it knows how far each
call has come, and so what its temporary file holds. Every turn preserves it.
-/

namespace WidgetForge

open Disk Operator Text

namespace Step

/-- Where a step has made a temporary file. -/
def made : (a : Step) → a.Reply → Option Location
  | .createTemp _, .ok temp => some temp
  | _, _ => none

/-- Whether a step has moved a file. -/
def moves : (a : Step) → a.Reply → Bool
  | .rename _ _, .ok _ => true
  | _, _ => false

end Step

namespace Disk

open Procedure

/-! ### Turns -/

/-- Calls that save files side by side. -/
structure Saves (ι : Type) where
  /-- Where they save them. -/
  world : World
  /-- What each of them has still to do. -/
  left : ι → Procedure (Except IoError Unit)
  /-- Which of them have moved their files, the last one first. -/
  moved : List ι

namespace Saves

variable {ι : Type}

/-- No call has taken a step. -/
def start (calls : ι → Saving) (w : World) : Saves ι :=
  ⟨w, fun i => save (calls i).path (calls i).content, []⟩

/-- Where the next step of the call `i` makes a temporary file, if it has this luck. -/
def made (s : Saves ι) (i : ι) (luck : Luck) : Option Location :=
  match s.left i with
  | .done _ => none
  | .step a _ => a.made (s.world.performWith luck a).1

theorem made_of_step {s : Saves ι} {i : ι} {luck : Luck} {a : Step}
    {next : a.Reply → Procedure (Except IoError Unit)} (hleft : s.left i = .step a next) :
    s.made i luck = a.made (s.world.performWith luck a).1 := by
  rw [made, hleft]

variable [DecidableEq ι]

/-- The call `i` takes its next step with some luck, if it has not ended. -/
def turn (s : Saves ι) (i : ι) (luck : Luck) : Saves ι :=
  match s.left i with
  | .done _ => s
  | .step a next =>
    let (reply, world) := s.world.performWith luck a
    ⟨world, Function.update s.left i (next reply), if a.moves reply then i :: s.moved else s.moved⟩

theorem turn_of_done {s : Saves ι} {i : ι} {luck : Luck} {result : Except IoError Unit}
    (hleft : s.left i = .done result) : s.turn i luck = s := by
  rw [turn, hleft]

theorem turn_of_step {s : Saves ι} {i : ι} {luck : Luck} {a : Step}
    {next : a.Reply → Procedure (Except IoError Unit)} {reply : a.Reply} {world : World}
    (hleft : s.left i = .step a next) (hstep : s.world.performWith luck a = (reply, world)) :
    s.turn i luck = ⟨world, Function.update s.left i (next reply),
      if a.moves reply then i :: s.moved else s.moved⟩ := by
  rw [turn, hleft]
  simp only [hstep]

end Saves

section

variable {ι : Type} (calls : ι → Saving)

/-- No call saves its file at this location, so a temporary file may stand there. The step that
makes a temporary file sees to it that nothing stands there yet, but it cannot know what will be
saved there later: the name has to be a fresh one. -/
def Fresh (t : Tree) (temp : Location) : Prop :=
  ∀ i, t.destination? (calls i).path ≠ some temp

instance {n : Nat} (calls : Fin n → Saving) (t : Tree) (temp : Location) :
    Decidable (Fresh calls t temp) :=
  inferInstanceAs (Decidable (∀ i, t.destination? (calls i).path ≠ some temp))

/-- What stands at a location of the tree `t` after these calls have moved their files, the last one
first. -/
def settled (t : Tree) (moved : List ι) (l : Location) : Option Node :=
  match moved.find? fun i => t.destination? (calls i).path = some l with
  | some i => some (.file (calls i).content)
  | none => t.node? l

/-- No two calls have the same temporary file. -/
def Apart (stage : ι → Stage) : Prop :=
  ∀ i j temp octets more, stage i = .filling temp octets → stage j = .filling temp more → i = j

variable [DecidableEq ι]

/-- `Reach calls w s`: begun in the world `w`, the calls may come as far as `s`. -/
inductive Reach (w : World) : Saves ι → Prop where
  /-- They begin. -/
  | start : Reach w (.start calls w)
  /-- One of them takes a step. The name of a temporary file is fresh. -/
  | turn {s : Saves ι} (i : ι) (luck : Luck) :
      Reach w s → (∀ temp ∈ s.made i luck, Fresh calls w.tree temp) → Reach w (s.turn i luck)

/-- The calls have come as far as `stage` says of each of them. -/
structure Sound (w : World) (stage : ι → Stage) (s : Saves ι) : Prop where
  here : s.world.tree.here = w.tree.here
  keeps : ∀ i, Keeps (calls i) (stage i) (s.left i)
  moved : ∀ i, i ∈ s.moved ↔ stage i = .moved
  /-- Files are moved to where no folder stood. -/
  landed : ∀ i ∈ s.moved, ∃ l,
    w.tree.destination? (calls i).path = some l ∧ w.tree.hasFolder l = false
  /-- A temporary file holds what its call has added, at a place of its own. -/
  holds : ∀ i temp octets, stage i = .filling temp octets →
    s.world.tree.node? temp = some (.file octets) ∧ w.tree.node? temp = none ∧
      Fresh calls w.tree temp
  apart : Apart stage
  /-- Everything but the temporary files is settled. -/
  rest : ∀ l, (∀ i octets, stage i ≠ .filling l octets) →
    s.world.tree.node? l = settled calls w.tree s.moved l

end

section

variable {ι : Type} {calls : ι → Saving} {w : World} {stage : ι → Stage} {s : Saves ι} {i : ι}
  {temp : Location} {octets more : Octets} {p : Procedure (Except IoError Unit)}

/-! ### Temporary files -/

/-- Temporary files stay apart if one call gets another one that is nobody else's, or none. -/
theorem Apart.update [DecidableEq ι] (h : Apart stage) {x : Stage}
    (hx : ∀ j, j ≠ i → ∀ temp octets more,
      x = .filling temp octets → stage j ≠ .filling temp more) :
    Apart (Function.update stage i x) := by
  intro j k temp octets more hj hk
  by_cases hji : j = i
  · by_cases hki : k = i
    · rw [hji, hki]
    · rw [Function.update_of_ne hki] at hk
      exact absurd hk (hx k hki temp octets more (by simpa [hji] using hj))
  · rw [Function.update_of_ne hji] at hj
    by_cases hki : k = i
    · exact absurd hj (hx j hji temp more octets (by simpa [hki] using hk))
    · rw [Function.update_of_ne hki] at hk
      exact h j k temp octets more hj hk

/-! ### What is settled -/

theorem settled_of_fresh {t : Tree} {l : Location} (h : Fresh calls t l) (moved : List ι) :
    settled calls t moved l = t.node? l := by
  have hnone : (moved.find? fun i => t.destination? (calls i).path = some l) = none :=
    List.find?_eq_none.mpr fun i _ => by simpa using h i
  rw [settled, hnone]

theorem settled_cons (t : Tree) (i : ι) (moved : List ι) (l : Location) :
    settled calls t (i :: moved) l =
      if t.destination? (calls i).path = some l then some (.file (calls i).content)
      else settled calls t moved l := by
  by_cases h : t.destination? (calls i).path = some l
  · simp [settled, h]
  · simp [settled, h]

namespace Sound

theorem start (calls : ι → Saving) (w : World) :
    Sound calls w (fun _ => .empty) (.start calls w) where
  here := rfl
  keeps i := keeps_save (calls i)
  moved i := by simp [Saves.start]
  landed i hi := nomatch hi
  holds _ _ _ := nofun
  apart _ _ _ _ _ := nofun
  rest l _ := rfl

/-- No folder comes or goes. -/
theorem hasFolder (h : Sound calls w stage s) (l : Location) :
    s.world.tree.hasFolder l = w.tree.hasFolder l := by
  by_cases htemp : ∃ i octets, stage i = .filling l octets
  · obtain ⟨i, octets, hi⟩ := htemp
    obtain ⟨hnow, hfree, -⟩ := h.holds i l octets hi
    simp [Tree.hasFolder, hnow, hfree]
  · have hnode := h.rest l (by simpa using htemp)
    unfold settled at hnode
    split at hnode
    · next j hfind =>
      obtain ⟨place, hplace, hno⟩ := h.landed j (List.mem_of_find?_eq_some hfind)
      have hl : w.tree.destination? (calls j).path = some l := by
        simpa using List.find?_some hfind
      obtain rfl : place = l := Option.some.inj (hplace.symm.trans hl)
      rw [hno]
      simp [Tree.hasFolder, hnode]
    · simp [Tree.hasFolder, hnode]

/-- No symbolic link comes. One may go, for a file may be moved to its place. -/
theorem link? (h : Sound calls w stage s) {l : Location} {target : Pathname}
    (hlink : s.world.tree.link? l = some target) : w.tree.link? l = some target := by
  have hnode := Tree.link?_eq_some_iff.mp hlink
  by_cases htemp : ∃ i octets, stage i = .filling l octets
  · obtain ⟨i, octets, hi⟩ := htemp
    exact nomatch (h.holds i l octets hi).1.symm.trans hnode
  · rw [h.rest l (by simpa using htemp), settled] at hnode
    split at hnode
    · exact nomatch hnode
    · exact Tree.link?_eq_some_iff.mpr hnode

/-- Files are saved to where they would have been saved at the beginning, if they still can. -/
theorem destination? (h : Sound calls w stage s) {q : Pathname} {l : Location}
    (hl : s.world.tree.destination? q = some l) : w.tree.destination? q = some l :=
  Tree.destination?_of_folders
    ⟨h.here.symm, fun m hm => h.hasFolder m ▸ hm, fun _ _ hlink => h.link? hlink⟩ hl

/-- A temporary file is the one of a call if it stands where the one of the call stands. -/
theorem eq_iff (h : Sound calls w stage s) (hi : stage i = .filling temp octets) {j : ι}
    {l : Location} (hj : stage j = .filling l more) : j = i ↔ l = temp := by
  constructor
  · rintro rfl
    rw [hi] at hj
    exact (Stage.filling.inj hj).1.symm
  · rintro rfl
    exact h.apart j i l more octets hj hi

/-! ### When one call goes on -/

variable [DecidableEq ι] {x : Stage}

theorem keeps_update (h : Sound calls w stage s) (hp : Keeps (calls i) x p) (j : ι) :
    Keeps (calls j) (Function.update stage i x j) (Function.update s.left i p j) := by
  by_cases hj : j = i
  · subst hj
    simpa using hp
  · simpa [hj] using h.keeps j

theorem moved_update (h : Sound calls w stage s) (hi : stage i ≠ .moved) (hx : x ≠ .moved)
    (j : ι) : j ∈ s.moved ↔ Function.update stage i x j = .moved := by
  by_cases hj : j = i
  · subst hj
    simp [h.moved j, hi, hx]
  · simpa [hj] using h.moved j

/-- What the temporary files hold when one call goes on: the others hold what they held before. -/
theorem holds_update (h : Sound calls w stage s) {t : Tree}
    (hother : ∀ j l octets, j ≠ i → stage j = .filling l octets → t.node? l = s.world.tree.node? l)
    (hi : ∀ l octets, x = .filling l octets →
      t.node? l = some (.file octets) ∧ w.tree.node? l = none ∧ Fresh calls w.tree l)
    (j : ι) (l : Location) (octets : Octets)
    (hj : Function.update stage i x j = .filling l octets) :
    t.node? l = some (.file octets) ∧ w.tree.node? l = none ∧ Fresh calls w.tree l := by
  by_cases hji : j = i
  · subst hji
    exact hi l octets (by simpa using hj)
  · rw [Function.update_of_ne hji] at hj
    rw [hother j l octets hji hj]
    exact h.holds j l octets hj

/-- What stays settled when one call goes on: what is now no temporary file was none before. -/
theorem rest_update (h : Sound calls w stage s) {l : Location}
    (hi : ∀ octets, stage i ≠ .filling l octets)
    (hl : ∀ j octets, Function.update stage i x j ≠ .filling l octets) :
    s.world.tree.node? l = settled calls w.tree s.moved l := by
  refine h.rest l fun j octets hj => ?_
  by_cases hji : j = i
  · exact hi octets (hji ▸ hj)
  · exact hl j octets (by rw [Function.update_of_ne hji, hj])

/-- A call goes on without having done anything. -/
theorem wait (h : Sound calls w stage s) (hp : Keeps (calls i) (stage i) p) :
    Sound calls w stage ⟨s.world, Function.update s.left i p, s.moved⟩ where
  here := h.here
  keeps j := by simpa using h.keeps_update hp j
  moved := h.moved
  landed := h.landed
  holds := h.holds
  apart := h.apart
  rest := h.rest

/-- The temporary file of a call is made or gets other octets. -/
theorem fill (h : Sound calls w stage s) (hfree : w.tree.node? temp = none)
    (hfresh : Fresh calls w.tree temp) (hi : stage i ≠ .moved)
    (hown : ∀ j l more, stage j = .filling l more → (j = i ↔ l = temp))
    (hp : Keeps (calls i) (.filling temp octets) p) :
    Sound calls w (Function.update stage i (.filling temp octets))
      ⟨held s.world temp octets, Function.update s.left i p, s.moved⟩ := by
  have hne : temp ≠ [] :=
    Tree.ne_nil_of_hasFolder_eq_false (Tree.hasFolder_eq_false_of_node?_eq_none hfree)
  have hnode (l : Location) : (held s.world temp octets).tree.node? l =
      if l = temp then some (.file octets) else s.world.tree.node? l :=
    Tree.node?_put s.world.tree hne (.file octets) l
  refine { here := h.here, keeps := h.keeps_update hp, moved := h.moved_update hi nofun,
           landed := h.landed,
           holds := h.holds_update (fun j l all hji hj => ?_) (fun l all hx => ?_),
           apart := h.apart.update fun j hj l octets more hx hl => ?_, rest := fun l hl => ?_ }
  · rw [hnode, if_neg (mt (hown j l all hj).mpr hji)]
  · obtain ⟨rfl, rfl⟩ := Stage.filling.inj hx
    exact ⟨by rw [hnode, if_pos rfl], hfree, hfresh⟩
  · obtain ⟨rfl, -⟩ := Stage.filling.inj hx
    exact hj ((hown j temp more hl).mpr rfl)
  · have hlt : l ≠ temp := by
      rintro rfl
      exact hl i octets (by simp)
    rw [hnode, if_neg hlt]
    exact h.rest_update (fun all hall => hlt ((hown i l all hall).mp rfl)) hl

/-- The temporary file of a call is taken away. -/
theorem release (h : Sound calls w stage s) (hi : stage i = .filling temp octets)
    (hp : Keeps (calls i) .empty p) :
    Sound calls w (Function.update stage i .empty)
      ⟨s.world.withTree (s.world.tree.erase temp), Function.update s.left i p, s.moved⟩ := by
  obtain ⟨-, hfree, hfresh⟩ := h.holds i temp octets hi
  have hne : temp ≠ [] :=
    Tree.ne_nil_of_hasFolder_eq_false (Tree.hasFolder_eq_false_of_node?_eq_none hfree)
  have hnode (l : Location) : (s.world.withTree (s.world.tree.erase temp)).tree.node? l =
      if l = temp then none else s.world.tree.node? l :=
    Tree.node?_erase s.world.tree hne l
  refine { here := h.here, keeps := h.keeps_update hp,
           moved := h.moved_update (by simp [hi]) nofun, landed := h.landed,
           holds := h.holds_update (fun j l all hji hj => ?_) nofun,
           apart := h.apart.update nofun, rest := fun l hl => ?_ }
  · rw [hnode, if_neg (mt (h.eq_iff hi hj).mpr hji)]
  · by_cases hlt : l = temp
    · subst hlt
      rw [hnode, if_pos rfl, settled_of_fresh hfresh, hfree]
    · rw [hnode, if_neg hlt]
      exact h.rest_update (fun all hall => hlt ((h.eq_iff hi hall).mp rfl)) hl

/-- A file is put where a call saves it. -/
theorem land (h : Sound calls w stage s) (hi : stage i = .empty) {place : Location}
    (hplace : w.tree.destination? (calls i).path = some place)
    (hno : w.tree.hasFolder place = false) (hp : Keeps (calls i) .moved p) :
    Sound calls w (Function.update stage i .moved)
      ⟨s.world.withTree (s.world.tree.put place (.file (calls i).content)),
        Function.update s.left i p, i :: s.moved⟩ := by
  have hnode (l : Location) :
      (s.world.withTree (s.world.tree.put place (.file (calls i).content))).tree.node? l =
        if l = place then some (.file (calls i).content) else s.world.tree.node? l :=
    Tree.node?_put s.world.tree (Tree.ne_nil_of_hasFolder_eq_false hno) _ l
  refine { here := h.here, keeps := h.keeps_update hp, moved := fun j => ?_,
           landed := fun j hj => ?_, holds := h.holds_update (fun j l all _ hj => ?_) nofun,
           apart := h.apart.update nofun, rest := fun l hl => ?_ }
  · by_cases hji : j = i
    · simp [hji]
    · simpa [hji] using h.moved j
  · rcases List.mem_cons.mp hj with rfl | hj
    · exact ⟨place, hplace, hno⟩
    · exact h.landed j hj
  · obtain ⟨-, -, hfresh⟩ := h.holds j l all hj
    have hlp : l ≠ place := by
      rintro rfl
      exact hfresh i hplace
    rw [hnode, if_neg hlp]
  · rw [hnode, settled_cons, hplace]
    by_cases hlp : l = place
    · simp [hlp]
    · have hpl : some place ≠ some l := fun heq => hlp (Option.some.inj heq).symm
      rw [if_neg hlp, if_neg hpl]
      exact h.rest_update (by simp [hi]) hl

/-! ### A turn -/

/-- **A turn keeps all calls sound.** There is one case for each way in which a call may go on, and
one for each way in which its step may turn out. -/
theorem turn (h : Sound calls w stage s) (i : ι) (luck : Luck)
    (hfresh : ∀ temp ∈ s.made i luck, Fresh calls w.tree temp) :
    ∃ stage, Sound calls w stage (s.turn i luck) := by
  have hkeeps := h.keeps i
  generalize hstage : stage i = x at hkeeps
  generalize hleft : s.left i = p at hkeeps
  cases hkeeps with
  | failed e => exact ⟨stage, by rwa [Saves.turn_of_done hleft]⟩
  | saved => exact ⟨stage, by rwa [Saves.turn_of_done hleft]⟩
  | createTemp herror hok =>
    rw [Saves.made_of_step hleft] at hfresh
    rcases performWith_createTemp s.world luck (calls i).path.folder with
      ⟨e, hstep⟩ | ⟨temp, hstep, -, hnone⟩
    · rw [Saves.turn_of_step hleft hstep]
      exact ⟨stage, h.wait (hstage ▸ herror e)⟩
    · rw [hstep] at hfresh
      have hfresh : Fresh calls w.tree temp := hfresh temp rfl
      -- nothing stood there, so it is not the temporary file of another call
      have hother : ∀ j octets, stage j ≠ .filling temp octets := by
        intro j octets hj
        obtain ⟨hnow, -⟩ := h.holds j temp octets hj
        rw [hnone] at hnow
        exact nomatch hnow
      have hfree : w.tree.node? temp = none := by
        rw [← settled_of_fresh hfresh s.moved, ← h.rest temp hother, hnone]
      rw [Saves.turn_of_step hleft hstep]
      refine ⟨_, h.fill hfree hfresh (by simp [hstage]) (fun j l more hj => ?_) (hok temp)⟩
      constructor
      · rintro rfl
        exact nomatch hstage.symm.trans hj
      · rintro rfl
        exact absurd hj (hother j more)
  | @append temp octets more next herror hok =>
    obtain ⟨hnow, hfree, hfresh⟩ := h.holds i temp octets hstage
    rcases performWith_append (Tree.file?_eq_some_iff.mpr hnow) luck more with
      ⟨e, hstep⟩ | ⟨n, hstep⟩
    · rw [Saves.turn_of_step hleft hstep]
      exact ⟨stage, h.wait (hstage ▸ herror e)⟩
    · rw [Saves.turn_of_step hleft hstep]
      exact ⟨_, h.fill hfree hfresh (by simp [hstage]) (fun _ _ _ hj => h.eq_iff hstage hj)
        (hok n)⟩
  | @sync temp octets next hnext =>
    obtain ⟨reply, hstep⟩ := performWith_sync s.world temp luck
    rw [Saves.turn_of_step hleft hstep]
    exact ⟨stage, h.wait (hstage ▸ hnext reply)⟩
  | @rename temp next herror hok =>
    obtain ⟨hnow, hfree, hfresh⟩ := h.holds i temp _ hstage
    rcases performWith_rename s.world temp (calls i).path luck with ⟨e, hstep⟩ | ⟨t, hmove, hstep⟩
    · rw [Saves.turn_of_step hleft hstep]
      exact ⟨stage, h.wait (hstage ▸ herror e)⟩
    · obtain ⟨folder, name, hlast, -, -, -, hno, rfl⟩ :=
        (Tree.rename_eq_ok_iff (Tree.file?_eq_some_iff.mpr hnow)).mp hmove
      have hplace : w.tree.destination? (calls i).path = some (folder ++ [name]) :=
        h.destination? (Tree.destination?_eq_some_iff.mpr ⟨folder, name, hlast, rfl⟩)
      rw [h.hasFolder] at hno
      rw [Saves.turn_of_step hleft hstep]
      -- the file is taken from one place and put to another one
      have hgone := h.release hstage (.failed .nothingWritten)
      have hthere := hgone.land (by simp) hplace hno hok
      exact ⟨_, by simpa [Step.moves] using hthere⟩
  | @discard temp octets next hnext =>
    rw [Saves.turn_of_step hleft (performWith_discard s.world temp luck)]
    exact ⟨_, h.release hstage hnext⟩

end Sound

variable [DecidableEq ι]

theorem Reach.sound (h : Reach calls w s) : ∃ stage, Sound calls w stage s := by
  induction h with
  | start => exact ⟨_, .start calls w⟩
  | turn i luck _ hfresh ih =>
    obtain ⟨stage, hs⟩ := ih
    exact hs.turn i luck hfresh

/-- **Saving files side by side**: at every time there stands, where a call saves its file, the
content of the last call that has moved its file there, or what stood there at the beginning if none
has. When all calls have ended this holds of every location, so no temporary file is left. A call
has ended well if it has moved its file, and only then. -/
theorem saves_settle (h : Reach calls w s) :
    (∀ i l, w.tree.destination? (calls i).path = some l →
      s.world.tree.node? l = settled calls w.tree s.moved l) ∧
    ((∀ i, ∃ result, s.left i = .done result) →
      ∀ l, s.world.tree.node? l = settled calls w.tree s.moved l) ∧
    ∀ i, s.left i = .done (.ok ()) ↔ i ∈ s.moved := by
  obtain ⟨stage, hs⟩ := h.sound
  refine ⟨fun i l hl => ?_, fun hended l => ?_, fun i => ?_⟩
  · refine hs.rest l fun j octets hj => ?_
    obtain ⟨-, -, hfresh⟩ := hs.holds j l octets hj
    exact hfresh i hl
  · refine hs.rest l fun j octets hj => ?_
    obtain ⟨result, hdone⟩ := hended j
    have hkeeps := hs.keeps j
    rw [hj, hdone] at hkeeps
    exact not_keeps_filling_done result hkeeps
  · rw [keeps_ok_iff (hs.keeps i), hs.moved]

end

/-! ### A race -/

/-- Three files, of which two are saved to one place. -/
def rivals : Fin 3 → Saving
  | 0 => ⟨⟨"/clock"⟩, [1, 2, 3]⟩
  | 1 => ⟨⟨"/./clock"⟩, [4]⟩
  | 2 => ⟨⟨"/dial"⟩, [5, 6]⟩

/-- A world with an older file at this place. -/
def older : World := ⟨.ofTree ⟨[(["clock"], .file [0])], []⟩, Picker.declining, []⟩

/-- The first call stops halfway, and the second one is done before it goes on. The third one comes
to nothing. -/
def race : Saves (Fin 3) :=
  [(0, Luck.named ".tmpA"), (0, .short 2), (1, .named ".tmpB"), (2, .named ".tmpC"), (1, .good),
    (2, .short 1), (1, .good), (1, .good), (0, .good), (2, .refused .nothingWritten), (0, .good),
    (0, .good), (2, .good)].foldl (fun s (i, luck) => s.turn i luck) (.start rivals older)

theorem reach_race : Reach rivals older race := by
  have h : Reach rivals older (.start rivals older) := .start
  have h := h.turn 0 (.named ".tmpA") (by decide +kernel)
  have h := h.turn 0 (.short 2) (by decide +kernel)
  have h := h.turn 1 (.named ".tmpB") (by decide +kernel)
  have h := h.turn 2 (.named ".tmpC") (by decide +kernel)
  have h := h.turn 1 .good (by decide +kernel)
  have h := h.turn 2 (.short 1) (by decide +kernel)
  have h := h.turn 1 .good (by decide +kernel)
  have h := h.turn 1 .good (by decide +kernel)
  have h := h.turn 0 .good (by decide +kernel)
  have h := h.turn 2 (.refused .nothingWritten) (by decide +kernel)
  have h := h.turn 0 .good (by decide +kernel)
  have h := h.turn 0 .good (by decide +kernel)
  exact h.turn 2 .good (by decide +kernel)

theorem saves_settle_race :
    Reach rivals older race ∧ race.moved = [0, 1] ∧
      race.left 2 = .done (.error .nothingWritten) ∧
      race.world.tree.node? ["clock"] = some (.file [1, 2, 3]) ∧
      ∀ l, l ≠ ["clock"] → race.world.tree.node? l = older.tree.node? l := by
  have hmoved : race.moved = [0, 1] := by decide +kernel
  obtain ⟨hplaces, hended, hok⟩ := saves_settle reach_race
  have hfailed : race.left 2 = .done (.error .nothingWritten) := rfl
  have hall := hended fun
    | 0 => ⟨.ok (), (hok 0).mpr (by simp [hmoved])⟩
    | 1 => ⟨.ok (), (hok 1).mpr (by simp [hmoved])⟩
    | 2 => ⟨_, hfailed⟩
  refine ⟨reach_race, hmoved, hfailed, ?_, fun l hl => ?_⟩
  · rw [hall]
    decide +kernel
  · rw [hall, hmoved]
    have h0 : older.tree.destination? (rivals 0).path = some ["clock"] := by decide +kernel
    have h1 : older.tree.destination? (rivals 1).path = some ["clock"] := by decide +kernel
    simp [settled, h0, h1, Ne.symm hl]

end Disk

end WidgetForge
