import Mathlib.Data.List.Forall2
import WidgetForge.Proofs.Host.Session

/-!
# A bad line or a crash harms no other line

Two sessions go side by side under one schedule. The second differs from the first in that some bad
lines are blank, and that some calls which crash in the first give an output. Then all that happens
to the world is the same in both, and so are all replies, but for those to these lines and calls.
-/

namespace WidgetForge.Host

open Procedure Text Tool

/-- Whether a line is malformed. -/
def IsBad (line : Octets) : Prop :=
  (∃ f, Utf8.decode line = .error f) ∨
    ∃ text e, Utf8.decode line = .ok text ∧ allBlank text = false ∧ Incoming.parse text = .error e

/-- The line `line'` is the line `line`, or it is blank in the place of a bad one. -/
def Blanked (line line' : Octets) : Prop :=
  line' = line ∨ (IsBad line ∧ isBlank line' = true)

/-- A call ends in the same way, or it gives an output where it crashed. -/
def Mended (ended ended' : Except String Output) : Prop :=
  ended' = ended ∨ ((∃ message, ended = .error message) ∧ ∃ output, ended' = .ok output)

/-- The host `h'` is the host `h`, but some of its calls that crash give an output. -/
structure Mends (h h' : Host) : Prop where
  instructions : h'.instructions = h.instructions
  specs : h'.registry.specs = h.registry.specs
  dispatch : ∀ name arguments,
    Alike Mended (h.registry.dispatch name arguments) (h'.registry.dispatch name arguments)

/-- The reply `r'` is the reply `r`, or it is the output of a call where `r` says that this call
crashed. -/
def Spares (r r' : Reply) : Prop :=
  r' = r ∨ ∃ id number message, ∃ output : Output,
    r = .result id ("Widget generation failed: " ++ crashWording number message)
      (some ⟨"unexpected", crashWording number message⟩) ∧
    r' = .result id output.text (output.error.map fun e => ⟨e.kind, e.message⟩)

/-- The replies `rs'` are the replies `rs` without some to bad lines, and with the output of some
calls where `rs` says that they crashed. -/
inductive Spared : List Reply → List Reply → Prop
  | nil : Spared [] []
  | reply {r r' : Reply} {rs rs' : List Reply} :
      Spares r r' → Spared rs rs' → Spared (r :: rs) (r' :: rs')
  | malformed {rs rs' : List Reply} (reason : String) :
      Spared rs rs' →
      Spared (.result .null ("Malformed request: " ++ reason)
        (some ⟨"malformed_request", reason⟩) :: rs) rs'

theorem Spared.append {rs rs' more more' : List Reply} (h : Spared rs rs')
    (hmore : Spared more more') : Spared (rs ++ more) (rs' ++ more') := by
  induction h with
  | nil => exact hmore
  | reply hr _ ih => exact .reply hr ih
  | malformed reason _ ih => exact .malformed reason ih

/-! ### Lines and calls -/

section

variable {h h' : Host} {line line' : Octets}

/-- A bad line is answered as malformed, and at once. -/
theorem receive_of_isBad (h : Host) (hbad : IsBad line) :
    ∃ reason, h.receive line = .reply (.malformed reason) := by
  unfold receive
  rcases hbad with ⟨f, hdecode⟩ | ⟨text, e, hdecode, hblank, hparse⟩
  · exact ⟨f.message, by simp [hdecode]⟩
  · exact ⟨e.message, by simp [hdecode, hblank, hparse]⟩

/-- What a line amounts to does not depend on what calls do. -/
theorem Mends.receive (hh : Mends h h') (line : Octets) : h'.receive line = h.receive line := by
  have hevent (message : Incoming) : h'.eventOf message = h.eventOf message := by
    cases message <;> simp [eventOf, hh.instructions, hh.specs]
  unfold Host.receive
  simp only [hevent]

theorem Mends.perform (hh : Mends h h') (number : Nat) (c : Call) :
    Alike Spares (h.perform number c) (h'.perform number c) := by
  refine (hh.dispatch c.name c.arguments).map fun ended ended' hended => ?_
  rcases hended with rfl | ⟨⟨message, rfl⟩, output, rfl⟩
  · exact Or.inl rfl
  · exact Or.inr ⟨c.id, number, message, output, rfl, rfl⟩

end

namespace Session

/-! ### Sessions side by side -/

/-- How two sessions differ that go side by side. -/
structure Beside (s s' : Session) : Prop where
  unread : List.Forall₂ Blanked s.unread s'.unread
  running : List.Forall₂ (Alike Spares) s.running s'.running
  accepted : s'.accepted = s.accepted
  sent : Spared (s.written ++ s.queued) (s'.written ++ s'.queued)
  whole : s.broken = none ∧ s'.broken = none
  world : s'.world = s.world

namespace Beside

variable {h h' : Host} {s s' : Session}

theorem start {ls ls' : List Octets} (h : List.Forall₂ Blanked ls ls') (world : World) :
    Beside (start ls world) (start ls' world) :=
  ⟨h, .nil, rfl, .nil, ⟨rfl, rfl⟩, rfl⟩

theorem send {r r' : Reply} (hs : Beside s s') (hr : Spares r r') :
    Beside (s.send r) (s'.send r') := by
  obtain ⟨hunread, hrunning, haccepted, hsent, ⟨hwhole, hwhole'⟩, hworld⟩ := hs
  simp only [Session.send, hwhole, hwhole']
  refine ⟨hunread, hrunning, haccepted, ?_, ⟨rfl, rfl⟩, hworld⟩
  simpa using hsent.append (.reply hr .nil)

theorem sendMalformed (hs : Beside s s') (reason : String) :
    Beside (s.send (.malformed reason)) s' := by
  obtain ⟨hunread, hrunning, haccepted, hsent, ⟨hwhole, hwhole'⟩, hworld⟩ := hs
  simp only [Session.send, hwhole]
  refine ⟨hunread, hrunning, haccepted, ?_, ⟨rfl, hwhole'⟩, hworld⟩
  simpa [Reply.malformed] using hsent.append (.malformed reason .nil)

theorem accept {line line' : Octets} (hh : Mends h h') (hs : Beside s s')
    (hline : Blanked line line') : Beside (s.accept h line) (s'.accept h' line') := by
  unfold Session.accept
  rcases hline with rfl | ⟨hbad, hblank⟩
  · rw [hh.receive]
    cases h.receive line' with
    | nothing => exact hs
    | reply r => exact hs.send (Or.inl rfl)
    | call c =>
      refine ⟨hs.unread, ?_, by simp [hs.accepted], hs.sent, hs.whole, hs.world⟩
      rw [hs.accepted]
      exact List.rel_append hs.running (.cons (hh.perform _ c) .nil)
  · obtain ⟨reason, hreceive⟩ := receive_of_isBad h hbad
    rw [hreceive, receive_eq_nothing_iff.mpr hblank]
    exact hs.sendMalformed reason

theorem read (hh : Mends h h') (hs : Beside s s') : Beside (s.read h) (s'.read h') := by
  obtain ⟨hunread, hrunning, haccepted, hsent, hwhole, hworld⟩ := hs
  unfold Session.read
  generalize hls : s.unread = ls at hunread
  generalize hls' : s'.unread = ls' at hunread
  cases hunread with
  | nil => exact ⟨by rw [hls, hls']; exact .nil, hrunning, haccepted, hsent, hwhole, hworld⟩
  | cons hline hmore =>
    exact accept hh ⟨hmore, hrunning, haccepted, hsent, hwhole, hworld⟩ hline

theorem step (hs : Beside s s') (place : Nat) : Beside (s.step place) (s'.step place) := by
  have hbefore := List.forall₂_take place hs.running
  have hlater := List.forall₂_drop place hs.running
  unfold Session.step
  generalize s.running.drop place = later at hlater
  generalize s'.running.drop place = later' at hlater
  cases hlater with
  | nil => exact hs
  | cons hp hmore =>
    cases hp with
    | done hr =>
      refine send ⟨hs.unread, ?_, hs.accepted, hs.sent, hs.whole, hs.world⟩ hr
      exact List.rel_append hbefore hmore
    | @step a next next' hnext =>
      refine ⟨hs.unread, ?_, hs.accepted, hs.sent, hs.whole, ?_⟩
      · rw [hs.world]
        exact List.rel_append hbefore (.cons (hnext _) hmore)
      · rw [hs.world]

/-- To write is to change nothing that matters here. -/
theorem write (hs : Beside s s') : Beside (s.write .working) (s'.write .working) := by
  rw [write_working, write_working]
  refine ⟨hs.unread, hs.running, hs.accepted, ?_, hs.whole, hs.world⟩
  simp only [List.append_assoc, List.take_append_drop, ← List.drop_one]
  exact hs.sent

theorem turn (hh : Mends h h') (hs : Beside s s') (t : Turn) :
    Beside (s.turn h .working t) (s'.turn h' .working t) := by
  cases t with
  | read => exact hs.read hh
  | step place => exact hs.step place
  | write => exact hs.write

theorem turns (hh : Mends h h') (hs : Beside s s') (schedule : List Turn) :
    Beside (s.turns h .working schedule) (s'.turns h' .working schedule) := by
  induction schedule generalizing s s' with
  | nil => exact hs
  | cons t rest ih => exact ih (hs.turn hh t)

theorem finish {p p' : Procedure Reply} (hs : Beside s s') (hp : Alike Spares p p') :
    Beside (s.finish p) (s'.finish p') := by
  obtain ⟨hworld, hr⟩ := hp.run s.world
  unfold Session.finish
  rw [hs.world]
  exact send ⟨hs.unread, hs.running, hs.accepted, hs.sent, hs.whole, hworld.symm⟩ hr

theorem foldl_finish {calls calls' : List (Procedure Reply)} (hs : Beside s s')
    (hcalls : List.Forall₂ (Alike Spares) calls calls') :
    Beside (calls.foldl Session.finish s) (calls'.foldl Session.finish s') := by
  induction hcalls generalizing s s' with
  | nil => exact hs
  | cons hp _ ih => exact ih (hs.finish hp)

theorem finishAll (hs : Beside s s') : Beside s.finishAll s'.finishAll :=
  foldl_finish ⟨hs.unread, .nil, hs.accepted, hs.sent, hs.whole, hs.world⟩ hs.running

theorem readAll (hh : Mends h h') (hs : Beside s s') :
    Beside (s.readAll h .working) (s'.readAll h' .working) := by
  unfold Session.readAll
  rw [hs.unread.length_eq]
  exact hs.turns hh _

theorem writeAll (hs : Beside s s') : Beside (s.writeAll h .working) (s'.writeAll h' .working) := by
  rw [writeAll_working, writeAll_working]
  refine ⟨hs.unread, hs.running, hs.accepted, ?_, hs.whole, hs.world⟩
  rw [List.append_nil, List.append_nil]
  exact hs.sent

theorem follow (hh : Mends h h') (hs : Beside s s') (schedule : List Turn) :
    Beside (s.follow h .working schedule) (s'.follow h' .working schedule) :=
  ((hs.turns hh schedule).readAll hh).finishAll.writeAll

end Beside

end Session

end WidgetForge.Host
