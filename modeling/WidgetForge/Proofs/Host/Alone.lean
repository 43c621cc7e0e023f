import WidgetForge.Proofs.Host.Session
import WidgetForge.Proofs.Procedure.Run

/-!
# A session with a single call

A call that has no others beside it runs as if it were run at once: whoever's turn it is, it alone
changes the world, and its reply is the only one.
-/

namespace WidgetForge.Host.Session

open Text

/-- A session that began in the world `w` with a line that calls `p`, and has gone on since. -/
inductive Alone (line : Octets) (p : Procedure Reply) (w : World) : Session → Prop where
  /-- The line has not been read. -/
  | unread : Alone line p w (start [line] w)
  /-- What is left of the call will end as the whole call does in the first world. -/
  | running {q : Procedure Reply} {v : World} (rest : q.run v = p.run w) :
    Alone line p w ⟨[], [q], 1, [], [], none, v⟩
  /-- The reply has been sent. -/
  | sent {queued written : List Reply} (replies : written ++ queued = [(p.run w).1]) :
    Alone line p w ⟨[], [], 1, queued, written, none, (p.run w).2⟩

section

variable {h : Host} {line : Octets} {c : Call} {w : World} {s : Session}

theorem Alone.read (hcall : h.receive line = .call c) (hs : Alone line (h.perform 0 c) w s) :
    Alone line (h.perform 0 c) w (s.read h) := by
  cases hs with
  | unread =>
    have hread : (start [line] w).read h = ⟨[], [h.perform 0 c], 1, [], [], none, w⟩ := by
      simp [start, Session.read, accept, hcall]
    rw [hread]
    exact .running rfl
  | running rest => exact .running rest
  | sent replies => exact .sent replies

theorem Alone.step {p : Procedure Reply} (hs : Alone line p w s) (place : Nat) :
    Alone line p w (s.step place) := by
  cases hs with
  | unread =>
    have hstep : (start [line] w).step place = start [line] w := by simp [start, Session.step]
    rw [hstep]
    exact .unread
  | @running q v rest =>
    cases place with
    | zero =>
      cases q with
      | done r =>
        have hend : (r, v) = p.run w := rest
        obtain ⟨hreply, hworld⟩ := Prod.mk.inj hend
        subst hworld
        exact .sent (by rw [← hreply]; rfl)
      | step a next => exact .running rest
    | succ place =>
      have hstep : Session.step (place + 1) ⟨[], [q], 1, [], [], none, v⟩ =
          ⟨[], [q], 1, [], [], none, v⟩ := by
        simp [Session.step]
      rw [hstep]
      exact .running rest
  | @sent queued written replies =>
    have hstep : Session.step place ⟨[], [], 1, queued, written, none, (p.run w).2⟩ =
        ⟨[], [], 1, queued, written, none, (p.run w).2⟩ := by
      simp [Session.step]
    rw [hstep]
    exact .sent replies

theorem Alone.write {p : Procedure Reply} (hs : Alone line p w s) :
    Alone line p w (s.write .working) := by
  cases hs with
  | unread => exact .unread
  | running rest => exact .running rest
  | @sent queued written replies =>
    cases queued with
    | nil => exact .sent replies
    | cons r queued => exact .sent (by rw [List.append_assoc]; exact replies)

theorem Alone.turn (hcall : h.receive line = .call c) (hs : Alone line (h.perform 0 c) w s)
    (t : Turn) : Alone line (h.perform 0 c) w (s.turn h .working t) := by
  cases t with
  | read => exact hs.read hcall
  | step place => exact hs.step place
  | write => exact hs.write

theorem Alone.turns (hcall : h.receive line = .call c) (schedule : List Turn)
    (hs : Alone line (h.perform 0 c) w s) :
    Alone line (h.perform 0 c) w (s.turns h .working schedule) := by
  induction schedule generalizing s with
  | nil => exact hs
  | cons t schedule ih => exact ih (hs.turn hcall t)

/-- **A single call is performed as if it were run at once**, whatever the turns are. -/
theorem follow_alone (hcall : h.receive line = .call c) (w : World) (schedule : List Turn) :
    ((start [line] w).follow h .working schedule).written = [((h.perform 0 c).run w).1] ∧
      ((start [line] w).follow h .working schedule).world = ((h.perform 0 c).run w).2 ∧
      ((start [line] w).follow h .working schedule).broken = none := by
  obtain ⟨rest, hrest⟩ := exists_turns_follow h .working (start [line] w) schedule
  obtain ⟨hunread, hrunning, hqueued⟩ := follow_working h (start [line] w) schedule
  have hend : Alone line (h.perform 0 c) w (start [line] w) := .unread
  have hend := hend.turns hcall (schedule ++ rest)
  rw [← hrest] at hend
  -- Nothing is unread or running at the end, so the reply has been sent.
  generalize (start [line] w).follow h .working schedule = s at hend hunread hrunning hqueued
  cases hend with
  | unread => exact absurd hunread (List.cons_ne_nil line [])
  | running => exact absurd hrunning (List.cons_ne_nil _ [])
  | sent replies =>
    obtain rfl : _ = [] := hqueued
    rw [List.append_nil] at replies
    exact ⟨replies, rfl, rfl⟩

end

end WidgetForge.Host.Session
