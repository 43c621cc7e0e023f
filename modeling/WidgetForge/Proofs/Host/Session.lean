import Mathlib.Data.List.Forall2
import WidgetForge.Host.Session
import WidgetForge.Proofs.Host.Answers

/-!
# Every line of a session is accounted for

At any time of a session, under any schedule, each line that has been read and is not blank has one
standing: its call is still running, or it has been answered. What is running and what has been sent
are these standings and nothing else (`Accounted`). A turn preserves that, so every run of turns
does; and when nothing is left to do, the replies written are the answers to the lines, one each.
-/

namespace WidgetForge.Host.Session

open Procedure Text

/-! ### Standings -/

/-- How far the answer to a line has come. -/
inductive Standing where
  /-- This is left of its call. -/
  | running (p : Procedure Reply)
  /-- It has been sent. -/
  | answered (r : Reply)

namespace Standing

/-- What is left of a call. -/
def call? : Standing → Option (Procedure Reply)
  | running p => some p
  | answered _ => none

/-- The reply that has been sent. -/
def reply? : Standing → Option Reply
  | running _ => none
  | answered r => some r

@[simp] theorem filterMap_call?_running (p : Procedure Reply) (xs : List Standing) :
    (running p :: xs).filterMap call? = p :: xs.filterMap call? := rfl

@[simp] theorem filterMap_call?_answered (r : Reply) (xs : List Standing) :
    (answered r :: xs).filterMap call? = xs.filterMap call? := rfl

@[simp] theorem filterMap_reply?_running (p : Procedure Reply) (xs : List Standing) :
    (running p :: xs).filterMap reply? = xs.filterMap reply? := rfl

@[simp] theorem filterMap_reply?_answered (r : Reply) (xs : List Standing) :
    (answered r :: xs).filterMap reply? = r :: xs.filterMap reply? := rfl

/-- The standing of a line in a session that has gone through the worlds `ws`. -/
def Of (h : Host) (ws : List World) (line : Octets) : Standing → Prop
  | running p => ∃ c number, h.receive line = .call c ∧ Left ws (h.perform number c) p
  | answered r => Answers h ws line r

theorem Of.wait {h : Host} {ws : List World} {line : Octets} {x : Standing} (hx : Of h ws line x)
    (w : World) : Of h (ws ++ [w]) line x := by
  cases x with
  | running p =>
    obtain ⟨c, number, hc, hleft⟩ := hx
    exact ⟨c, number, hc, hleft.wait w⟩
  | answered r => exact Answers.wait hx w

/-- A call that is running is the standing of one line. -/
theorem exists_running {standings : List Standing} {before later : List (Procedure Reply)}
    {p : Procedure Reply} (h : standings.filterMap call? = before ++ p :: later) :
    ∃ pre post, standings = pre ++ running p :: post ∧ pre.filterMap call? = before ∧
      post.filterMap call? = later := by
  obtain ⟨front, back, rfl, hfront, hback⟩ := List.filterMap_eq_append_iff.mp h
  obtain ⟨skipped, x, post, rfl, hskipped, hx, hpost⟩ := List.filterMap_eq_cons_iff.mp hback
  have hnone : skipped.filterMap call? = [] := List.filterMap_eq_nil_iff.mpr hskipped
  cases x with
  | running q =>
    simp only [call?, Option.some.injEq] at hx
    subst hx
    exact ⟨front ++ skipped, post, by simp, by simp [hfront, hnone], hpost⟩
  | answered r => exact nomatch hx

/-- All standings stay when the session goes on, but one that changes. -/
theorem forall₂_replace {h : Host} {ws : List World} {w : World} {lines : List Octets}
    {pre post : List Standing} {x y : Standing}
    (hall : List.Forall₂ (Of h ws) lines (pre ++ x :: post))
    (hxy : ∀ line, Of h ws line x → Of h (ws ++ [w]) line y) :
    List.Forall₂ (Of h (ws ++ [w])) lines (pre ++ y :: post) := by
  induction pre generalizing lines with
  | nil =>
    cases hall with
    | cons hx hpost => exact .cons (hxy _ hx) (hpost.imp fun _ _ hz => hz.wait w)
  | cons z pre ih =>
    cases hall with
    | cons hz hrest => exact .cons (hz.wait w) (ih hrest)

/-- If no call is running, all standings are answers. -/
theorem forall₂_answered {h : Host} {ws : List World} {lines : List Octets} {xs : List Standing}
    (hall : List.Forall₂ (Of h ws) lines xs) (hidle : xs.filterMap call? = []) :
    List.Forall₂ (Answers h ws) lines (xs.filterMap reply?) := by
  induction hall with
  | nil => exact .nil
  | @cons line x _ _ hx _ ih =>
    cases x with
    | running p => exact nomatch hidle
    | answered r => exact .cons hx (ih hidle)

end Standing

/-! ### The invariant -/

/-- All lines that have been read have their standings, and the session is made of them. -/
def Accounted (h : Host) (lines : List Octets) (ws : List World) (s : Session) : Prop :=
  ∃ read standings, lines = read ++ s.unread ∧
    List.Forall₂ (Standing.Of h ws) (read.filter fun line => !isBlank line) standings ∧
    s.running = standings.filterMap Standing.call? ∧
    (s.written ++ s.queued).Perm (standings.filterMap Standing.reply?) ∧ s.broken = none

section

variable {h : Host} {lines : List Octets} {ws : List World} {s : Session}

theorem accounted_start (h : Host) (lines : List Octets) (world : World) :
    Accounted h lines [] (start lines world) :=
  ⟨[], [], rfl, .nil, rfl, .refl _, rfl⟩

theorem Accounted.wait (hs : Accounted h lines ws s) (w : World) :
    Accounted h lines (ws ++ [w]) s := by
  obtain ⟨read, standings, hread, hall, hrest⟩ := hs
  exact ⟨read, standings, hread, hall.imp fun _ _ hx => hx.wait w, hrest⟩

theorem Accounted.read (hs : Accounted h lines ws s) :
    Accounted h lines (ws ++ [s.world]) (s.read h) := by
  unfold Session.read
  cases hunread : s.unread with
  | nil => exact hs.wait s.world
  | cons line rest =>
    obtain ⟨read, standings, hread, hall, hrunning, hsent, hbroken⟩ := hs
    have hold := hall.imp fun _ _ hx => Standing.Of.wait hx s.world
    have hlines : lines = (read ++ [line]) ++ rest := by simp [hread, hunread]
    simp only [accept]
    cases hreceive : h.receive line with
    | nothing =>
      have hblank := receive_eq_nothing_iff.mp hreceive
      refine ⟨read ++ [line], standings, hlines, ?_, hrunning, hsent, hbroken⟩
      simpa [List.filter_append, hblank] using hold
    | reply r =>
      have hblank : isBlank line = false := by
        rw [← Bool.not_eq_true, ← receive_eq_nothing_iff, hreceive]
        exact nofun
      have hnew : Standing.Of h (ws ++ [s.world]) line (.answered r) := answers_of_reply hreceive
      simp only [send, hbroken]
      refine ⟨read ++ [line], standings ++ [.answered r], hlines, ?_, ?_, ?_, rfl⟩
      · simpa [List.filter_append, hblank] using List.rel_append hold (.cons hnew .nil)
      · simp [hrunning]
      · simpa using hsent.append_right [r]
    | call c =>
      have hblank : isBlank line = false := by
        rw [← Bool.not_eq_true, ← receive_eq_nothing_iff, hreceive]
        exact nofun
      have hnew : Standing.Of h (ws ++ [s.world]) line (.running (h.perform s.accepted c)) :=
        ⟨c, s.accepted, hreceive, .refl _ _⟩
      refine ⟨read ++ [line], standings ++ [.running (h.perform s.accepted c)], hlines, ?_, ?_, ?_,
        hbroken⟩
      · simpa [List.filter_append, hblank] using List.rel_append hold (.cons hnew .nil)
      · simp [hrunning]
      · simpa using hsent

theorem Accounted.step (hs : Accounted h lines ws s) (place : Nat) :
    Accounted h lines (ws ++ [s.world]) (s.step place) := by
  unfold Session.step
  cases hlater : s.running.drop place with
  | nil => exact hs.wait s.world
  | cons p later =>
    obtain ⟨read, standings, hread, hall, hrunning, hsent, hbroken⟩ := hs
    have hsplit : s.running = s.running.take place ++ p :: later := by
      rw [← hlater, List.take_append_drop]
    obtain ⟨pre, post, rfl, hpre, hpost⟩ := Standing.exists_running (hrunning.symm.trans hsplit)
    cases p with
    | done r =>
      simp only [send, hbroken]
      refine ⟨read, pre ++ .answered r :: post, hread, ?_, ?_, ?_, rfl⟩
      · refine Standing.forall₂_replace hall fun line hline => ?_
        obtain ⟨c, number, hc, hleft⟩ := hline
        exact (answers_of_call hc hleft).wait s.world
      · simp [hpre, hpost]
      · have hmore := hsent.append_right [r]
        simp only [List.filterMap_append, Standing.filterMap_reply?_running,
          Standing.filterMap_reply?_answered, List.append_assoc] at hmore ⊢
        exact hmore.trans (List.perm_append_comm.append_left _)
    | step a next =>
      refine ⟨read, pre ++ .running (next (s.world.perform a).1) :: post, hread, ?_, ?_, ?_,
        hbroken⟩
      · refine Standing.forall₂_replace hall fun line hline => ?_
        obtain ⟨c, number, hc, hleft⟩ := hline
        exact ⟨c, number, hc, hleft.step s.world⟩
      · simp [hpre, hpost]
      · simpa using hsent

theorem Accounted.write (hs : Accounted h lines ws s) :
    Accounted h lines (ws ++ [s.world]) (s.write .working) := by
  unfold Session.write
  cases hqueued : s.queued with
  | nil => exact hs.wait s.world
  | cons r rest =>
    obtain ⟨read, standings, hread, hall, hrunning, hsent, hbroken⟩ := hs.wait s.world
    refine ⟨read, standings, hread, hall, hrunning, ?_, hbroken⟩
    show ((s.written ++ [r]) ++ rest).Perm _
    simpa [hqueued] using hsent

/-- Whosever turn it is, every line is still accounted for. -/
theorem Accounted.turn (hs : Accounted h lines ws s) (t : Turn) :
    Accounted h lines (ws ++ [s.world]) (s.turn h .working t) := by
  cases t with
  | read => exact hs.read
  | step place => exact hs.step place
  | write => exact hs.write

end

/-- The worlds in which turns begin. -/
def trail (h : Host) (writer : Writer) : List Turn → Session → List World
  | [], _ => []
  | t :: rest, s => s.world :: trail h writer rest (s.turn h writer t)

/-- **Every line is accounted for**, whatever turns have been taken. -/
theorem Accounted.turns {h : Host} {lines : List Octets} {ws : List World} {s : Session}
    (hs : Accounted h lines ws s) (schedule : List Turn) :
    Accounted h lines (ws ++ trail h .working schedule s) (s.turns h .working schedule) := by
  induction schedule generalizing ws s with
  | nil => simpa [trail, Session.turns] using hs
  | cons t rest ih =>
    have hrest := ih (hs.turn t)
    rwa [List.append_assoc] at hrest

/-- When nothing is left to do, the replies that have been written are the answers to the lines. -/
theorem Accounted.complete {h : Host} {lines : List Octets} {ws : List World} {s : Session}
    (hs : Accounted h lines ws s) (hunread : s.unread = []) (hidle : s.running = [])
    (hqueued : s.queued = []) :
    ∃ replies, List.Forall₂ (Answers h ws) (lines.filter fun line => !isBlank line) replies ∧
      s.written.Perm replies := by
  obtain ⟨read, standings, hread, hall, hrunning, hsent, -⟩ := hs
  rw [hunread, List.append_nil] at hread
  rw [hidle] at hrunning
  rw [hqueued, List.append_nil] at hsent
  refine ⟨standings.filterMap Standing.reply?, ?_, hsent⟩
  rw [hread]
  exact Standing.forall₂_answered hall hrunning.symm

/-! ### What a schedule leaves over -/

section

variable (h : Host) (writer : Writer)

theorem turns_append (s : Session) (first rest : List Turn) :
    s.turns h writer (first ++ rest) = (s.turns h writer first).turns h writer rest :=
  List.foldl_append

@[simp] theorem unread_send (s : Session) (r : Reply) : (s.send r).unread = s.unread := by
  unfold send
  split <;> rfl

@[simp] theorem running_send (s : Session) (r : Reply) : (s.send r).running = s.running := by
  unfold send
  split <;> rfl

@[simp] theorem unread_finish (s : Session) (p : Procedure Reply) :
    (s.finish p).unread = s.unread := unread_send _ _

@[simp] theorem running_finish (s : Session) (p : Procedure Reply) :
    (s.finish p).running = s.running := running_send _ _

/-- Calls are finished in the same way whatever else is running. -/
theorem finish_with_running (s : Session) (p : Procedure Reply) (others : List (Procedure Reply)) :
    { s.finish p with running := others } = { s with running := others }.finish p := by
  unfold finish send
  cases s.broken <;> rfl

/-- The first call can be finished step by step. -/
theorem exists_turns_finish (p : Procedure Reply) (s : Session) (later : List (Procedure Reply))
    (hs : s.running = p :: later) :
    ∃ schedule, s.turns h writer schedule = { s with running := later }.finish p := by
  induction p generalizing s with
  | done r =>
    refine ⟨[.step 0], ?_⟩
    simp [turns, turn, Session.step, hs, finish, Procedure.run]
  | step a next ih =>
    obtain ⟨schedule, hschedule⟩ := ih (s.world.perform a).1 (s.step 0)
      (by simp [Session.step, hs])
    refine ⟨.step 0 :: schedule, ?_⟩
    show (s.step 0).turns h writer schedule = _
    rw [hschedule]
    simp [Session.step, hs, finish, Procedure.run]

theorem exists_turns_finishAll (s : Session) :
    ∃ schedule, s.turns h writer schedule = s.finishAll := by
  unfold finishAll
  generalize hs : s.running = calls
  induction calls generalizing s with
  | nil =>
    refine ⟨[], ?_⟩
    show s = { s with running := [] }
    rw [← hs]
  | cons p later ih =>
    obtain ⟨first, hfirst⟩ := exists_turns_finish h writer p s later hs
    obtain ⟨rest, hrest⟩ := ih ({ s with running := later }.finish p) (running_finish _ _)
    refine ⟨first ++ rest, ?_⟩
    rw [turns_append, hfirst, hrest, finish_with_running, List.foldl_cons]

/-- To follow a schedule is to take its turns and then some more. -/
theorem exists_turns_follow (s : Session) (schedule : List Turn) :
    ∃ rest, s.follow h writer schedule = s.turns h writer (schedule ++ rest) := by
  unfold follow writeAll
  obtain ⟨finishing, hfinishing⟩ :=
    exists_turns_finishAll h writer ((s.turns h writer schedule).readAll h writer)
  rw [← hfinishing]
  unfold readAll
  simp only [← turns_append, List.append_assoc]
  exact ⟨_, rfl⟩

/-! ### The end of a session -/

theorem unread_read (s : Session) : (s.read h).unread = s.unread.tail := by
  unfold Session.read
  cases hunread : s.unread with
  | nil => exact hunread
  | cons line rest =>
    simp only [accept]
    split <;> simp

theorem unread_readAll (s : Session) : (s.readAll h writer).unread = [] := by
  unfold readAll
  generalize hn : s.unread.length = n
  induction n generalizing s with
  | zero => exact List.length_eq_zero_iff.mp hn
  | succ n ih =>
    refine ih (s.read h) ?_
    rw [unread_read, List.length_tail, hn, Nat.add_sub_cancel]

theorem unread_foldl_finish (calls : List (Procedure Reply)) (s : Session) :
    (calls.foldl finish s).unread = s.unread := by
  induction calls generalizing s with
  | nil => rfl
  | cons p later ih => rw [List.foldl_cons, ih, unread_finish]

theorem running_foldl_finish (calls : List (Procedure Reply)) (s : Session) :
    (calls.foldl finish s).running = s.running := by
  induction calls generalizing s with
  | nil => rfl
  | cons p later ih => rw [List.foldl_cons, ih, running_finish]

theorem write_working (s : Session) : s.write .working =
    { s with queued := s.queued.tail, written := s.written ++ s.queued.take 1 } := by
  unfold Session.write
  cases hqueued : s.queued with
  | nil =>
    show s = { s with queued := [], written := s.written ++ [] }
    rw [List.append_nil, ← hqueued]
  | cons r rest => rfl

/-- A working writer writes all that waits. -/
theorem writeAll_working (s : Session) :
    s.writeAll h .working = { s with queued := [], written := s.written ++ s.queued } := by
  unfold writeAll
  generalize hn : s.queued.length = n
  induction n generalizing s with
  | zero =>
    have hqueued := List.length_eq_zero_iff.mp hn
    show s = { s with queued := [], written := s.written ++ s.queued }
    rw [hqueued, List.append_nil, ← hqueued]
  | succ n ih =>
    have hrest := ih (s.write .working)
      (by rw [write_working, List.length_tail, hn, Nat.add_sub_cancel])
    show (s.write .working).turns h .working _ = _
    rw [hrest, write_working]
    simp only [List.append_assoc, List.take_append_drop, ← List.drop_one]

/-- A session that has followed a schedule has nothing left to do. -/
theorem follow_working (s : Session) (schedule : List Turn) :
    (s.follow h .working schedule).unread = [] ∧ (s.follow h .working schedule).running = [] ∧
      (s.follow h .working schedule).queued = [] := by
  unfold follow
  rw [writeAll_working]
  refine ⟨?_, ?_, rfl⟩
  · rw [finishAll, unread_foldl_finish, unread_readAll]
  · rw [finishAll, running_foldl_finish]

end

end WidgetForge.Host.Session
