import WidgetForge.Proofs.Disk.Save

/-!
# What a call that saves a file may do next

A call that saves a file has a temporary file for some time, and only its own. What it may do next
depends on how far it has come: it makes the file, adds octets to it, stores it, and moves it to the
path once it holds the whole content; after a failure it takes the file away. `Keeps` says that
a procedure goes on in this way, whatever replies it gets, so it says nothing of the world in which
the steps are taken and of who else takes steps there. `save` does so from its beginning.
-/

namespace WidgetForge.Disk

open Text (Octets)
open Procedure

/-- A file that is to be saved. -/
structure Saving where
  /-- Where it is to be saved. -/
  path : Pathname
  /-- What it is to hold. -/
  content : Octets

/-- How far a call has come. -/
inductive Stage where
  /-- It has no temporary file: not yet, or no longer after a failure. -/
  | empty
  /-- It has a temporary file that holds these octets. -/
  | filling (temp : Location) (octets : Octets)
  /-- Its file has been moved to the path. -/
  | moved

/-- `Keeps c stage p`: a call that saves `c` and has come as far as `stage` goes on with the
procedure `p` as it should. -/
inductive Keeps (c : Saving) : Stage → Procedure (Except IoError Unit) → Prop where
  /-- Without its file it ends with an error. -/
  | failed (e : IoError) : Keeps c .empty (.done (.error e))
  /-- With its file at the path it ends well. -/
  | saved : Keeps c .moved (.done (.ok ()))
  /-- It makes a temporary file in the folder of the path. -/
  | createTemp {next : Except IoError Location → Procedure (Except IoError Unit)} :
      (∀ e, Keeps c .empty (next (.error e))) →
        (∀ temp, Keeps c (.filling temp []) (next (.ok temp))) →
          Keeps c .empty (.step (.createTemp c.path.folder) next)
  /-- It adds octets to its temporary file, and it learns how many have been added. -/
  | append {temp : Location} {octets more : Octets}
      {next : Except IoError Nat → Procedure (Except IoError Unit)} :
      (∀ e, Keeps c (.filling temp octets) (next (.error e))) →
        (∀ n, Keeps c (.filling temp (octets ++ more.take n)) (next (.ok (more.take n).length))) →
          Keeps c (.filling temp octets) (.step (.append temp more) next)
  /-- It stores its temporary file. -/
  | sync {temp : Location} {octets : Octets}
      {next : Except IoError Unit → Procedure (Except IoError Unit)} :
      (∀ reply, Keeps c (.filling temp octets) (next reply)) →
        Keeps c (.filling temp octets) (.step (.sync temp) next)
  /-- It moves its temporary file to the path. The file holds the whole content. -/
  | rename {temp : Location} {next : Except IoError Unit → Procedure (Except IoError Unit)} :
      (∀ e, Keeps c (.filling temp c.content) (next (.error e))) → Keeps c .moved (next (.ok ())) →
        Keeps c (.filling temp c.content) (.step (.rename temp c.path) next)
  /-- It takes its temporary file away. -/
  | discard {temp : Location} {octets : Octets} {next : Unit → Procedure (Except IoError Unit)} :
      Keeps c .empty (next ()) → Keeps c (.filling temp octets) (.step (.discard temp) next)

section

variable {c : Saving} {stage : Stage} {temp : Location} {octets : Octets}

/-- A call has ended well if its file has been moved, and only then. -/
theorem keeps_ok_iff {p : Procedure (Except IoError Unit)} (h : Keeps c stage p) :
    p = .done (.ok ()) ↔ stage = .moved := by
  cases h with
  | saved => exact ⟨fun _ => rfl, fun _ => rfl⟩
  | failed => exact ⟨nofun, nofun⟩
  | createTemp => exact ⟨nofun, nofun⟩
  | append => exact ⟨nofun, nofun⟩
  | sync => exact ⟨nofun, nofun⟩
  | rename => exact ⟨nofun, nofun⟩
  | discard => exact ⟨nofun, nofun⟩

/-- A call that has ended has no temporary file. -/
theorem not_keeps_filling_done (result : Except IoError Unit) :
    ¬ Keeps c (.filling temp octets) (.done result) := nofun

theorem keeps_abandon (e : IoError) : Keeps c (.filling temp octets) (abandon temp e) :=
  .discard (.failed e)

/-- Octets are added piece by piece, and then the call goes on with all of them or with an
error. -/
theorem keeps_appendAllUpTo {fuel : Nat} {more : Octets}
    {next : Except IoError Unit → Procedure (Except IoError Unit)}
    (herror : ∀ e octets, Keeps c (.filling temp octets) (next (.error e)))
    (hok : Keeps c (.filling temp (octets ++ more)) (next (.ok ()))) :
    Keeps c (.filling temp octets) ((appendAllUpTo fuel temp more).bind next) := by
  induction fuel generalizing octets more with
  | zero =>
    cases more with
    | nil =>
      rw [List.append_nil] at hok
      exact hok
    | cons o rest => exact herror .nothingWritten octets
  | succ fuel ih =>
    cases more with
    | nil =>
      rw [List.append_nil] at hok
      exact hok
    | cons o rest =>
      refine .append (fun e => herror e octets) fun n => ?_
      cases n with
      | zero => exact herror .nothingWritten _
      | succ n =>
        refine ih ?_
        -- what has been added and what is left are all that was to be added
        have hall := take_append_drop_length (o :: rest) (n + 1)
        rw [← hall, ← List.append_assoc] at hok
        exact hok

theorem keeps_fillAndMove : Keeps c (.filling temp []) (fillAndMove temp c.path c.content) := by
  refine keeps_appendAllUpTo (fun e _ => keeps_abandon e) (.sync fun stored => ?_)
  cases stored with
  | error e => exact keeps_abandon e
  | ok u => exact .rename (fun e => keeps_abandon e) .saved

/-- **Saving a file keeps to the steps of a save.** -/
theorem keeps_save (c : Saving) : Keeps c .empty (save c.path c.content) :=
  .createTemp (fun e => .failed e) fun _ => keeps_fillAndMove

end

end WidgetForge.Disk
