import WidgetForge.Host.Basic
import WidgetForge.Proofs.Procedure.Progress

/-!
# What answers a line

A blank line is not answered. Any other line is answered by one reply, which depends on the line and
on the registry, and for a call on the worlds in which its tool took its steps. `Answers` says for
each case what is in the reply: under which identifier it comes, its text, and the kind and the
wording of the error in it.
-/

namespace WidgetForge.Host

open Json Procedure Text Tool

/-- Whether a line is blank. -/
def isBlank (line : Octets) : Bool :=
  match Utf8.decode line with
  | .error _ => false
  | .ok text => allBlank text

/-- The wording of the error that tells of a crash. -/
def crashWording (number : Nat) (message : String) : String :=
  "Unexpected error: " ++
    ("task " ++ toString number ++ " panicked with message " ++ quoted message)

/-- The reply `r` answers the line `line` in a session that has gone through the worlds `ws`. -/
inductive Answers (h : Host) (ws : List World) (line : Octets) : Reply → Prop
  /-- A line that is no text is malformed. -/
  | notText {f : Utf8.Fault} :
      Utf8.decode line = .error f →
      Answers h ws line (.result .null ("Malformed request: " ++ f.message)
        (some ⟨"malformed_request", f.message⟩))
  /-- A line that is no message is malformed. -/
  | notMessage {text : String} {e : Json.Error} :
      Utf8.decode line = .ok text → Incoming.parse text = .error e →
      Answers h ws line (.result .null ("Malformed request: " ++ e.message)
        (some ⟨"malformed_request", e.message⟩))
  /-- Who asks for the tools gets them. -/
  | tools {text : String} {id : Value} :
      Utf8.decode line = .ok text → Incoming.parse text = .ok (.listTools id) →
      Answers h ws line (.tools id h.instructions h.registry.specs)
  /-- Who calls a tool gets its output. -/
  | ended {text : String} {id arguments : Value} {name : String} {output : Output} :
      Utf8.decode line = .ok text → Incoming.parse text = .ok (.callTool id name arguments) →
      Left ws (h.registry.dispatch name arguments) (.done (.ok output)) →
      Answers h ws line (.result id output.text (output.error.map fun e => ⟨e.kind, e.message⟩))
  /-- Who calls a tool that crashes is told so. -/
  | crashed {text : String} {id arguments : Value} {name message : String} (number : Nat) :
      Utf8.decode line = .ok text → Incoming.parse text = .ok (.callTool id name arguments) →
      Left ws (h.registry.dispatch name arguments) (.done (.error message)) →
      Answers h ws line (.result id ("Widget generation failed: " ++ crashWording number message)
        (some ⟨"unexpected", crashWording number message⟩))

section

variable {h : Host} {ws : List World} {line : Octets}

/-- An answer stays one when the session goes on. -/
theorem Answers.wait {r : Reply} (hr : Answers h ws line r) (w : World) :
    Answers h (ws ++ [w]) line r := by
  cases hr with
  | notText hdecode => exact .notText hdecode
  | notMessage hdecode hparse => exact .notMessage hdecode hparse
  | tools hdecode hparse => exact .tools hdecode hparse
  | ended hdecode hparse hleft => exact .ended hdecode hparse (hleft.wait w)
  | crashed number hdecode hparse hleft => exact .crashed number hdecode hparse (hleft.wait w)

/-- What a line can amount to. -/
theorem receive_cases (h : Host) (line : Octets) :
    (∃ f, Utf8.decode line = .error f ∧ h.receive line = .reply (.malformed f.message)) ∨
    (∃ text, Utf8.decode line = .ok text ∧ allBlank text = true ∧ h.receive line = .nothing) ∨
    (∃ text e, Utf8.decode line = .ok text ∧ allBlank text = false ∧
      Incoming.parse text = .error e ∧ h.receive line = .reply (.malformed e.message)) ∨
    ∃ text message, Utf8.decode line = .ok text ∧ allBlank text = false ∧
      Incoming.parse text = .ok message ∧ h.receive line = h.eventOf message := by
  unfold receive
  cases hdecode : Utf8.decode line with
  | error f => exact Or.inl ⟨f, rfl, rfl⟩
  | ok text =>
    cases hblank : allBlank text with
    | true => exact Or.inr (Or.inl ⟨text, rfl, hblank, by simp [hblank]⟩)
    | false =>
      cases hparse : Incoming.parse text with
      | error e =>
        exact Or.inr (Or.inr (Or.inl ⟨text, e, rfl, hblank, hparse, by simp [hblank, hparse]⟩))
      | ok message =>
        exact Or.inr (Or.inr (Or.inr ⟨text, message, rfl, hblank, hparse,
          by simp [hblank, hparse]⟩))

theorem receive_eq_nothing_iff : h.receive line = .nothing ↔ isBlank line = true := by
  rcases receive_cases h line with ⟨f, hdecode, hreceive⟩ | ⟨text, hdecode, hblank, hreceive⟩ |
    ⟨text, e, hdecode, hblank, -, hreceive⟩ | ⟨text, message, hdecode, hblank, -, hreceive⟩
  · simp [isBlank, hdecode, hreceive]
  · simp [isBlank, hdecode, hblank, hreceive]
  · simp [isBlank, hdecode, hblank, hreceive]
  · cases message <;> simp [isBlank, hdecode, hblank, hreceive, eventOf]

/-- A line that is answered at once gets the right answer. -/
theorem answers_of_reply {r : Reply} (hr : h.receive line = .reply r) : Answers h ws line r := by
  rcases receive_cases h line with ⟨f, hdecode, hreceive⟩ | ⟨text, -, -, hreceive⟩ |
    ⟨text, e, hdecode, -, hparse, hreceive⟩ | ⟨text, message, hdecode, -, hparse, hreceive⟩
  · simp only [hreceive, Event.reply.injEq] at hr
    exact hr ▸ .notText hdecode
  · simp [hreceive] at hr
  · simp only [hreceive, Event.reply.injEq] at hr
    exact hr ▸ .notMessage hdecode hparse
  · cases message with
    | listTools id =>
      simp only [hreceive, eventOf, Event.reply.injEq] at hr
      exact hr ▸ .tools hdecode hparse
    | callTool id name arguments => simp [hreceive, eventOf] at hr

/-- A line that is a call was read as one. -/
theorem parse_of_call {c : Call} (hc : h.receive line = .call c) :
    ∃ text, Utf8.decode line = .ok text ∧
      Incoming.parse text = .ok (.callTool c.id c.name c.arguments) := by
  rcases receive_cases h line with ⟨f, -, hreceive⟩ | ⟨text, -, -, hreceive⟩ |
    ⟨text, e, -, -, -, hreceive⟩ | ⟨text, message, hdecode, -, hparse, hreceive⟩
  · simp [hreceive] at hc
  · simp [hreceive] at hc
  · simp [hreceive] at hc
  · cases message with
    | listTools id => simp [hreceive, eventOf] at hc
    | callTool id name arguments =>
      simp only [hreceive, eventOf, Event.call.injEq] at hc
      subst hc
      exact ⟨text, hdecode, hparse⟩

/-- A call that has come to its end gets the right answer. -/
theorem answers_of_call {c : Call} {number : Nat} {r : Reply} (hc : h.receive line = .call c)
    (hleft : Left ws (h.perform number c) (.done r)) : Answers h ws line r := by
  obtain ⟨text, hdecode, hparse⟩ := parse_of_call hc
  obtain ⟨ended, hended, rfl⟩ := hleft.of_map_done
  cases ended with
  | ok output => exact .ended hdecode hparse hended
  | error message => exact .crashed number hdecode hparse hended

end

end WidgetForge.Host
