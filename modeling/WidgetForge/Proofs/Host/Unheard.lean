import WidgetForge.Proofs.Host.Session

/-!
# A host that is not heard works on

Whether replies can be written makes no difference to the work: the same lines are read, the same
calls are performed, step by step in the same worlds, and what the operator is asked and what
becomes of the files is the same. To see this, every session is compared with the one that reads
the same lines and takes the same steps in the same order, but writes nothing at all (`Told`). In
that session all replies that have been sent wait in the queue, so it tells what a writer has let
through and what is lost (`Sent`).
-/

namespace WidgetForge.Host

open Disk Procedure Text

/-- The reply with the number `n` is the first one that cannot be written. -/
def Writer.FailsFirst (writer : Writer) (n : Nat) (e : IoError) : Prop :=
  writer n = .error e ∧ ∀ m < n, writer m = .ok ()

namespace Session

/-- All but the writing of a schedule. -/
def works (schedule : List Turn) : List Turn := schedule.filter (· ≠ .write)

/-- The sessions `s` and `s'` differ at most in what has become of their replies. -/
structure SameWork (s s' : Session) : Prop where
  unread : s'.unread = s.unread
  running : s'.running = s.running
  accepted : s'.accepted = s.accepted
  world : s'.world = s.world

theorem SameWork.refl (s : Session) : SameWork s s := ⟨rfl, rfl, rfl, rfl⟩

theorem SameWork.trans {s s' s'' : Session} (h : SameWork s s') (h' : SameWork s' s'') :
    SameWork s s'' :=
  ⟨h'.unread.trans h.unread, h'.running.trans h.running, h'.accepted.trans h.accepted,
    h'.world.trans h.world⟩

theorem SameWork.symm {s s' : Session} (h : SameWork s s') : SameWork s' s :=
  ⟨h.unread.symm, h.running.symm, h.accepted.symm, h.world.symm⟩

/-! ### What becomes of replies -/

theorem send_of_none {s : Session} (h : s.broken = none) (r : Reply) :
    s.send r = { s with queued := s.queued ++ [r] } := by
  unfold send
  split
  · next e he => exact nomatch h.symm.trans he
  · rfl

theorem send_of_some {s : Session} {e : IoError} (h : s.broken = some e) (r : Reply) :
    s.send r = s := by
  unfold send
  split
  · rfl
  · next hnone => exact nomatch h.symm.trans hnone

theorem sameWork_send (s : Session) (r : Reply) : SameWork s (s.send r) := by
  unfold send
  split <;> exact ⟨rfl, rfl, rfl, rfl⟩

theorem sameWork_write (writer : Writer) (s : Session) : SameWork s (s.write writer) := by
  unfold Session.write
  split
  · exact SameWork.refl s
  · split <;> exact ⟨rfl, rfl, rfl, rfl⟩

/-- What has become of the replies that have been sent in the session `s`. -/
structure Sent (writer : Writer) (replies : List Reply) (s : Session) : Prop where
  /-- What has been written could be written. -/
  written : ∀ n < s.written.length, writer n = .ok ()
  /-- As long as no reply is lost, each has been written or waits. -/
  whole : s.broken = none → s.written ++ s.queued = replies
  /-- If replies are lost, then from the first one on that could not be written. -/
  lost : ∀ e, s.broken = some e → s.queued = [] ∧ s.written <+: replies ∧
    s.written.length < replies.length ∧ writer s.written.length = .error e

namespace Sent

variable {writer : Writer} {replies : List Reply} {s : Session}

theorem send (hs : Sent writer replies s) (r : Reply) :
    Sent writer (replies ++ [r]) (s.send r) := by
  cases hbroken : s.broken with
  | none =>
    rw [send_of_none hbroken]
    refine ⟨hs.written, fun _ => ?_, fun e he => (nomatch hbroken.symm.trans he)⟩
    rw [← hs.whole hbroken, List.append_assoc]
  | some e =>
    rw [send_of_some hbroken]
    refine ⟨hs.written, fun hnone => (nomatch hbroken.symm.trans hnone), fun e' he => ?_⟩
    obtain ⟨hqueued, hprefix, hlength, hfails⟩ := hs.lost e' he
    refine ⟨hqueued, hprefix.trans (List.prefix_append _ _), ?_, hfails⟩
    rw [List.length_append]
    exact Nat.lt_add_right _ hlength

theorem write (hs : Sent writer replies s) : Sent writer replies (s.write writer) := by
  unfold Session.write
  cases hqueued : s.queued with
  | nil => exact hs
  | cons r rest =>
    -- a reply waits, so none is lost
    have hbroken : s.broken = none := by
      by_contra hsome
      obtain ⟨e, he⟩ := Option.ne_none_iff_exists'.mp hsome
      exact nomatch hqueued.symm.trans (hs.lost e he).1
    have hwhole := hs.whole hbroken
    rw [hqueued] at hwhole
    cases hwrite : writer s.written.length with
    | ok u =>
      refine ⟨fun n hn => ?_, fun _ => ?_, fun e he => (nomatch hbroken.symm.trans he)⟩
      · simp only [List.length_append, List.length_singleton] at hn
        rcases Nat.lt_succ_iff_lt_or_eq.mp hn with hlt | rfl
        · exact hs.written n hlt
        · exact hwrite
      · simpa using hwhole
    | error e =>
      refine ⟨hs.written, nofun, fun e' he => ?_⟩
      obtain rfl : e = e' := Option.some.inj he
      refine ⟨rfl, ⟨r :: rest, hwhole⟩, ?_, hwrite⟩
      rw [← hwhole]
      simp

/-- The first reply that cannot be written is lost, and all that come after it. -/
theorem of_failsFirst (hs : Sent writer replies s) (hqueued : s.queued = []) {n : Nat} {e : IoError}
    (hn : n < replies.length) (hfails : writer.FailsFirst n e) :
    s.broken = some e ∧ s.written = replies.take n := by
  cases hbroken : s.broken with
  | none =>
    have hwhole := hs.whole hbroken
    rw [hqueued, List.append_nil] at hwhole
    exact nomatch hfails.1.symm.trans (hs.written n (hwhole ▸ hn))
  | some e' =>
    obtain ⟨-, hprefix, -, herror⟩ := hs.lost e' hbroken
    have hlength : s.written.length = n := by
      rcases Nat.lt_trichotomy s.written.length n with hlt | heq | hgt
      · exact nomatch herror.symm.trans (hfails.2 _ hlt)
      · exact heq
      · exact nomatch hfails.1.symm.trans (hs.written n hgt)
    rw [hlength] at herror
    refine ⟨by rw [Except.error.inj (herror.symm.trans hfails.1)], ?_⟩
    rw [← hlength]
    exact List.prefix_iff_eq_take.mp hprefix

/-- If all replies can be written, none is lost. -/
theorem of_ok (hs : Sent writer replies s) (hqueued : s.queued = [])
    (hok : ∀ n < replies.length, writer n = .ok ()) : s.broken = none ∧ s.written = replies := by
  cases hbroken : s.broken with
  | none =>
    have hwhole := hs.whole hbroken
    rw [hqueued, List.append_nil] at hwhole
    exact ⟨rfl, hwhole⟩
  | some e =>
    obtain ⟨-, -, hlength, herror⟩ := hs.lost e hbroken
    exact nomatch herror.symm.trans (hok _ hlength)

end Sent

/-! ### Sessions that write nothing -/

/-- The session `s` does the work of the session `quiet`, in which all replies wait. -/
structure Told (writer : Writer) (quiet s : Session) : Prop where
  work : SameWork quiet s
  unbroken : quiet.broken = none
  sent : Sent writer quiet.queued s

namespace Told

variable {h : Host} {writer : Writer} {quiet s : Session}

theorem start (writer : Writer) (unread : List Octets) (world : World) :
    Told writer (start unread world) (start unread world) :=
  ⟨.refl _, rfl, fun _ hn => absurd hn (Nat.not_lt_zero _), fun _ => rfl, nofun⟩

theorem send (hs : Told writer quiet s) (r : Reply) : Told writer (quiet.send r) (s.send r) := by
  have hwork := hs.work.trans (sameWork_send s r)
  rw [send_of_none hs.unbroken]
  exact ⟨⟨hwork.unread, hwork.running, hwork.accepted, hwork.world⟩, hs.unbroken, hs.sent.send r⟩

/-- Whatever the quiet session has waiting, the other goes on to write. -/
theorem write (hs : Told writer quiet s) : Told writer quiet (s.write writer) :=
  ⟨hs.work.trans (sameWork_write writer s), hs.unbroken, hs.sent.write⟩

theorem accept (hs : Told writer quiet s) (line : Octets) :
    Told writer (quiet.accept h line) (s.accept h line) := by
  unfold Session.accept
  cases h.receive line with
  | nothing => exact hs
  | reply r => exact hs.send r
  | call c =>
    obtain ⟨hunread, hrunning, haccepted, hworld⟩ := hs.work
    refine ⟨⟨hunread, ?_, ?_, hworld⟩, hs.unbroken, hs.sent.written, hs.sent.whole, hs.sent.lost⟩
    · rw [hrunning, haccepted]
    · rw [haccepted]

theorem read (hs : Told writer quiet s) : Told writer (quiet.read h) (s.read h) := by
  unfold Session.read
  rw [hs.work.unread]
  cases quiet.unread with
  | nil => exact hs
  | cons line rest =>
    have hrest : Told writer { quiet with unread := rest } { s with unread := rest } :=
      ⟨⟨rfl, hs.work.running, hs.work.accepted, hs.work.world⟩, hs.unbroken, hs.sent.written,
        hs.sent.whole, hs.sent.lost⟩
    exact hrest.accept line

theorem step (hs : Told writer quiet s) (place : Nat) :
    Told writer (quiet.step place) (s.step place) := by
  unfold Session.step
  rw [hs.work.running]
  cases quiet.running.drop place with
  | nil => exact hs
  | cons p later =>
    cases p with
    | done r =>
      have hrest : Told writer { quiet with running := quiet.running.take place ++ later }
          { s with running := quiet.running.take place ++ later } :=
        ⟨⟨hs.work.unread, rfl, hs.work.accepted, hs.work.world⟩, hs.unbroken, hs.sent.written,
          hs.sent.whole, hs.sent.lost⟩
      exact hrest.send r
    | step a next =>
      simp only [hs.work.world]
      exact ⟨⟨hs.work.unread, rfl, hs.work.accepted, rfl⟩, hs.unbroken, hs.sent.written,
        hs.sent.whole, hs.sent.lost⟩

/-- The quiet session takes all turns with the other, but for those in which a reply is written. -/
theorem turns (hs : Told writer quiet s) (schedule : List Turn) :
    Told writer (quiet.turns h .working (works schedule)) (s.turns h writer schedule) := by
  induction schedule generalizing quiet s with
  | nil => exact hs
  | cons t rest ih =>
    cases t with
    | read => exact ih hs.read
    | step place => exact ih (hs.step place)
    | write => exact ih hs.write

theorem readAll (hs : Told writer quiet s) :
    Told writer (quiet.readAll h .working) (s.readAll h writer) := by
  have hworks (n : Nat) : works (List.replicate n .read) = List.replicate n .read := by
    simp [works]
  have hturns := hs.turns (h := h) (List.replicate s.unread.length .read)
  rw [hworks, hs.work.unread] at hturns
  unfold Session.readAll
  rw [hs.work.unread]
  exact hturns

theorem finish (hs : Told writer quiet s) (p : Procedure Reply) :
    Told writer (quiet.finish p) (s.finish p) := by
  have hworld : Told writer { quiet with world := (p.run quiet.world).2 }
      { s with world := (p.run quiet.world).2 } :=
    ⟨⟨hs.work.unread, hs.work.running, hs.work.accepted, rfl⟩, hs.unbroken, hs.sent.written,
      hs.sent.whole, hs.sent.lost⟩
  unfold Session.finish
  rw [hs.work.world]
  exact hworld.send _

theorem finishAll (hs : Told writer quiet s) : Told writer quiet.finishAll s.finishAll := by
  have hfold (calls : List (Procedure Reply)) {quiet s : Session} (hs : Told writer quiet s) :
      Told writer (calls.foldl Session.finish quiet) (calls.foldl Session.finish s) := by
    induction calls generalizing quiet s with
    | nil => exact hs
    | cons p later ih => exact ih (hs.finish p)
  unfold Session.finishAll
  rw [hs.work.running]
  refine hfold _ ⟨⟨hs.work.unread, rfl, hs.work.accepted, hs.work.world⟩, hs.unbroken, ?_⟩
  exact ⟨hs.sent.written, hs.sent.whole, hs.sent.lost⟩

theorem writeAll (hs : Told writer quiet s) : Told writer quiet (s.writeAll h writer) := by
  have hworks (n : Nat) : works (List.replicate n .write) = [] := by simp [works]
  have hturns := hs.turns (h := h) (List.replicate s.queued.length .write)
  rwa [hworks] at hturns

/-- All the work that follows from a schedule, without any writing. -/
theorem follow (hs : Told writer quiet s) (schedule : List Turn) :
    Told writer ((quiet.turns h .working (works schedule)).readAll h .working).finishAll
      (s.follow h writer schedule) :=
  ((hs.turns schedule).readAll).finishAll.writeAll

end Told

/-! ### The end of a session -/

/-- A reply is written or lost, so one less waits. -/
theorem length_queued_write (writer : Writer) (s : Session) :
    (s.write writer).queued.length ≤ s.queued.length - 1 := by
  unfold Session.write
  cases hqueued : s.queued with
  | nil => simp [hqueued]
  | cons r rest => cases writer s.written.length <;> simp

theorem queued_writeAll (h : Host) (writer : Writer) (s : Session) :
    (s.writeAll h writer).queued = [] := by
  have hwrites (n : Nat) {s : Session} (hn : s.queued.length ≤ n) :
      (s.turns h writer (List.replicate n .write)).queued = [] := by
    induction n generalizing s with
    | zero => exact List.length_eq_zero_iff.mp (Nat.le_zero.mp hn)
    | succ n ih =>
      have hless := length_queued_write writer s
      exact ih (s := s.write writer) (by omega)
  exact hwrites _ (Nat.le_refl _)

/-- The session in which all work is done that follows from a schedule, and nothing is written. -/
def quiet (h : Host) (schedule : List Turn) (s : Session) : Session :=
  ((s.turns h .working (works schedule)).readAll h .working).finishAll

theorem told_follow (h : Host) (writer : Writer) (unread : List Octets) (world : World)
    (schedule : List Turn) :
    Told writer ((start unread world).quiet h schedule)
      ((start unread world).follow h writer schedule) :=
  (Told.start writer unread world).follow schedule

/-- One reply has been sent for each line that is not blank. -/
theorem length_queued_quiet (h : Host) (unread : List Octets) (world : World)
    (schedule : List Turn) :
    ((start unread world).quiet h schedule).queued.length =
      (unread.filter fun line => !isBlank line).length := by
  obtain ⟨rest, hrest⟩ := exists_turns_follow h .working (start unread world) schedule
  have hall := (accounted_start h unread world).turns (schedule ++ rest)
  rw [← hrest, List.nil_append] at hall
  obtain ⟨hunread, hrunning, hqueued⟩ := follow_working h (start unread world) schedule
  obtain ⟨replies, hanswers, hperm⟩ := hall.complete hunread hrunning hqueued
  have hsent := (told_follow h .working unread world schedule).sent
  obtain ⟨-, hwritten⟩ := hsent.of_ok hqueued fun _ _ => rfl
  rw [← hwritten, hperm.length_eq, hanswers.length_eq]

end Session

/-! ### A whole session -/

open Session

/-- How many replies an input is to get: one for each line that is not blank. -/
def repliesTo (input : Octets) (ending : Ending) : Nat :=
  ((lines input ending).filter fun line => !isBlank line).length

/-- **A host that is not heard works on**: however its writer fails and whenever it writes, at each
moment it has read the same lines, performed the same calls with the same steps and come to the same
world as a host with a working writer, and in the end all lines are read and all calls are finished.
It ends with the error of the first reply that could not be written, and then the replies before it
have been written. If all replies could be written, it ends as its input ends; so if there is
nothing to reply to, it does not matter whether anything could be written. -/
theorem serve_unheard (h : Host) (writer : Writer) (input : Octets) (ending : Ending)
    (schedule : List Turn) (world : World) :
    (∀ heard, works heard = works schedule →
      SameWork ((start (lines input ending) world).turns h .working heard)
        ((start (lines input ending) world).turns h writer schedule) ∧
      SameWork (h.serve .working input ending heard world).2
        (h.serve writer input ending schedule world).2) ∧
    ((h.serve writer input ending schedule world).2.unread = [] ∧
      (h.serve writer input ending schedule world).2.running = []) ∧
    (∀ n e, n < repliesTo input ending → writer.FailsFirst n e →
      (h.serve writer input ending schedule world).1 = .error e ∧
      (h.serve writer input ending schedule world).2.written =
        (h.serve .working input ending schedule world).2.written.take n) ∧
    ((∀ n < repliesTo input ending, writer n = .ok ()) →
      (h.serve writer input ending schedule world).1 =
        (match ending with
          | .failed e => .error e
          | .closed => .ok ()) ∧
      (h.serve writer input ending schedule world).2.written =
        (h.serve .working input ending schedule world).2.written) := by
  have htold := told_follow h writer (lines input ending) world schedule
  have hheard (heard : List Turn) := told_follow h .working (lines input ending) world heard
  have hlength : ((start (lines input ending) world).quiet h schedule).queued.length =
      repliesTo input ending := length_queued_quiet h (lines input ending) world schedule
  have hqueued (writer : Writer) :
      ((start (lines input ending) world).follow h writer schedule).queued = [] :=
    queued_writeAll h writer _
  -- a working writer has written all that was sent
  obtain ⟨-, hwritten⟩ := (hheard schedule).sent.of_ok (hqueued .working) fun _ _ => rfl
  obtain ⟨hunread, hrunning, -⟩ := follow_working h (start (lines input ending) world) schedule
  refine ⟨fun heard hworks => ⟨?_, ?_⟩, ⟨?_, ?_⟩, fun n e hn hfails => ?_, fun hok => ?_⟩
  · have hmoment := ((Told.start .working (lines input ending) world).turns (h := h) heard).work
    rw [hworks] at hmoment
    exact hmoment.symm.trans ((Told.start writer (lines input ending) world).turns schedule).work
  · have hend := (hheard heard).work
    rw [quiet, hworks] at hend
    exact hend.symm.trans htold.work
  · exact htold.work.unread.trans ((hheard schedule).work.unread.symm.trans hunread)
  · exact htold.work.running.trans ((hheard schedule).work.running.symm.trans hrunning)
  · obtain ⟨hbroken, hpassed⟩ := htold.sent.of_failsFirst (hqueued writer) (hlength ▸ hn) hfails
    exact ⟨congrArg (outcome ending) hbroken, hpassed.trans (congrArg (List.take n) hwritten.symm)⟩
  · obtain ⟨hbroken, hall⟩ := htold.sent.of_ok (hqueued writer) (hlength ▸ hok)
    refine ⟨?_, hall.trans hwritten.symm⟩
    rw [serve]
    simp only [hbroken]
    cases ending <;> rfl

/-- A writer that writes one reply and then fails. -/
def Writer.once : Writer := fun n => if n = 0 then .ok () else .error .nothingWritten

/-- Two lines that are no messages, and a blank line between them. -/
def scribble : Octets := [120, 10, 10, 121, 10]

theorem serve_unheard_once :
    repliesTo scribble (.failed .notText) = 2 ∧ Writer.once.FailsFirst 1 .nothingWritten ∧
    ∀ (h : Host) (schedule : List Turn) (world : World),
      (h.serve .once scribble (.failed .notText) schedule world).1 = .error .nothingWritten ∧
      (h.serve .once scribble (.failed .notText) schedule world).2.written =
        (h.serve .working scribble (.failed .notText) schedule world).2.written.take 1 := by
  have htwo : repliesTo scribble (.failed .notText) = 2 := by decide +kernel
  have hfails : Writer.once.FailsFirst 1 .nothingWritten :=
    ⟨rfl, fun m hm => if_pos (Nat.lt_one_iff.mp hm)⟩
  refine ⟨htwo, hfails, fun h schedule world => ?_⟩
  obtain ⟨-, -, hfirst, -⟩ := serve_unheard h .once scribble (.failed .notText) schedule world
  exact hfirst 1 _ (by omega) hfails

end WidgetForge.Host
