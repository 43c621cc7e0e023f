import WidgetForge.Host.Reply
import WidgetForge.Proofs.Host.Calls
import WidgetForge.Proofs.Host.Identifiers

/-!
# Replies that are written one behind the other

A reply is written as JSON on a line of its own. An agent cuts what it receives behind each line
feed, reads each line as a value and finds the parts of the reply under their names. It gets the
replies that were written, in order, whatever texts they hold, as long as their values can be read
back: they hold no doubles and no repeated keys, and the line is nested within the limit. What a
reply to a message is known by is of this kind.
-/

namespace WidgetForge.Host

open Json Text Tool

/-! ### What an agent makes of a line -/

/-- What a value says about an error. -/
def ErrorBody.ofValue? : Value → Option ErrorBody
  | .object members =>
    match Keyed.get? "kind" members, Keyed.get? "message" members with
    | some (.string kind), some (.string message) => some ⟨kind, message⟩
    | _, _ => none
  | _ => none

/-- The specifications that some values describe. -/
def specsOf? : List Value → Option (List Spec)
  | [] => some []
  | v :: rest =>
    match Spec.record.ofValue v with
    | .error _ => none
    | .ok row => (specsOf? rest).map (Spec.ofRow row :: ·)

namespace Reply

/-- The reply whose parts are under their names. A reply with an output is an outcome; its error may
be absent. -/
def ofMembers? (members : List (String × Value)) : Option Reply :=
  match Keyed.get? "id" members, Keyed.get? "output" members, Keyed.get? "error" members,
    Keyed.get? "instructions" members, Keyed.get? "tools" members with
  | some id, some (.string output), none, none, none => some (.result id output none)
  | some id, some (.string output), some error, none, none =>
    (ErrorBody.ofValue? error).map fun e => .result id output (some e)
  | some id, none, none, some (.string instructions), some (.array specs) =>
    (specsOf? specs).map (.tools id instructions)
  | _, _, _, _, _ => none

/-- The reply that a line describes. -/
def read (line : Octets) : Option Reply :=
  match Utf8.decode line with
  | .error _ => none
  | .ok text =>
    match Value.parse text with
    | .ok (.object members) => ofMembers? members
    | _ => none

/-! ### Lines -/

/-- A reply whose values can be read back from its line. An identifier stands inside one pair of
brackets, the parameters of a tool inside three. -/
def Writable : Reply → Prop
  | .tools id _ specs =>
    id.Portable (depthLimit - 1) ∧ ∀ s ∈ specs, s.parameters.Portable (depthLimit - 3)
  | .result id _ _ => id.Portable (depthLimit - 1)

section

variable {depth : Nat}

theorem portable_spec {s : Spec} (h : s.parameters.Portable depth) :
    s.toValue.Portable (depth + 1) := by
  have hnames : ["name", "description", "parameters"].Nodup := by decide
  refine portable_object hnames (List.forall_mem_cons.mpr ⟨portable_string _ _, ?_⟩)
  exact List.forall_mem_cons.mpr ⟨portable_string _ _, List.forall_mem_singleton.mpr h⟩

theorem portable_error (e : ErrorBody) : e.toValue.Portable (depth + 1) := by
  have hnames : ["kind", "message"].Nodup := by decide
  refine portable_object hnames (List.forall_mem_cons.mpr ⟨portable_string _ _, ?_⟩)
  exact List.forall_mem_singleton.mpr (portable_string _ _)

theorem portable_tools {id : Value} {instructions : String} {specs : List Spec}
    (hid : id.Portable (depth + 2)) (hspecs : ∀ s ∈ specs, s.parameters.Portable depth) :
    (tools id instructions specs).toValue.Portable (depth + 3) := by
  have hnames : ["id", "instructions", "tools"].Nodup := by decide
  refine portable_object hnames (List.forall_mem_cons.mpr ⟨hid, ?_⟩)
  refine List.forall_mem_cons.mpr ⟨portable_string _ _, List.forall_mem_singleton.mpr ?_⟩
  refine portable_array fun v hv => ?_
  obtain ⟨s, hs, rfl⟩ := List.mem_map.mp hv
  exact portable_spec (hspecs s hs)

theorem portable_result {id : Value} {output : String} {error : Option ErrorBody}
    (hid : id.Portable (depth + 1)) : (result id output error).toValue.Portable (depth + 2) := by
  cases error with
  | none =>
    have hnames : ["id", "output"].Nodup := by decide
    refine portable_object hnames (List.forall_mem_cons.mpr ⟨hid, ?_⟩)
    exact List.forall_mem_singleton.mpr (portable_string _ _)
  | some e =>
    have hnames : ["id", "output", "error"].Nodup := by decide
    refine portable_object hnames (List.forall_mem_cons.mpr ⟨hid, ?_⟩)
    exact List.forall_mem_cons.mpr
      ⟨portable_string _ _, List.forall_mem_singleton.mpr (portable_error e)⟩

end

theorem portable_toValue {r : Reply} (h : r.Writable) : r.toValue.Portable depthLimit := by
  cases r with
  | tools id instructions specs => exact portable_tools h.1 h.2
  | result id output error => exact portable_result h

/-- The line of a reply ends with its line feed, and holds no other control character. -/
theorem line_eq {r : Reply} (h : r.Writable) :
    ∃ body, (∀ c ∈ body, 32 ≤ c.toNat) ∧ r.line.toList = body ++ ['\n'] := by
  refine ⟨r.toValue.write, fun c hc => ?_, ?_⟩
  · by_contra hlow
    exact control_not_mem_write (Nat.lt_of_not_le hlow) (portable_toValue h).plain hc
  · simp [line, Value.text]

theorem encode_line {r : Reply} (h : r.Writable) :
    ∃ octets, 10 ∉ octets ∧ Utf8.encode r.line = octets ++ [10] := by
  obtain ⟨body, hbody, hline⟩ := line_eq h
  exact Utf8.encode_line (fun hmem => absurd (hbody _ hmem) (by decide)) hline

/-- **The line of a reply is read as the reply.** -/
theorem parse_line {r : Reply} (h : r.Writable) : Value.parse r.line = .ok r.toValue := by
  have hportable := portable_toValue h
  rw [Value.parse, line, read_text_append hportable.plain (by decide), Except.map,
    hportable.settled]

theorem specsOf?_toValue {specs : List Spec} (h : ∀ s ∈ specs, s.parameters.settle = s.parameters) :
    specsOf? (specs.map Spec.toValue) = some specs := by
  induction specs with
  | nil => rfl
  | cons s specs ih =>
    have hspec : Spec.record.ofValue s.toValue =
        .ok (s.name, s.description, s.parameters.settle, ()) := rfl
    rw [h s List.mem_cons_self] at hspec
    simp only [List.map_cons, specsOf?, hspec, ih fun t ht => h t (List.mem_cons_of_mem s ht)]
    rfl

/-- The parts of a reply are found under their names. -/
theorem ofMembers?_toValue {r : Reply} (h : r.Writable) :
    ∃ members, r.toValue = .object members ∧ ofMembers? members = some r := by
  cases r with
  | tools id instructions specs =>
    refine ⟨_, rfl, ?_⟩
    have hspecs := specsOf?_toValue fun s hs => (h.2 s hs).settled
    have hparts : ofMembers? [("id", id), ("instructions", .string instructions),
        ("tools", .array (specs.map Spec.toValue))] =
          (specsOf? (specs.map Spec.toValue)).map (.tools id instructions) := rfl
    rw [hparts, hspecs, Option.map_some]
  | result id output error =>
    cases error with
    | none => exact ⟨_, rfl, rfl⟩
    | some e => exact ⟨_, rfl, rfl⟩

theorem read_encode_line {r : Reply} (h : r.Writable) : read (Utf8.encode r.line) = some r := by
  obtain ⟨members, hvalue, hparts⟩ := ofMembers?_toValue h
  simp only [read, Utf8.decode_encode, parse_line h, hvalue, hparts]

/-- The replies that are written are read, in order. -/
theorem read_lines {replies : List Reply} (h : ∀ r ∈ replies, r.Writable) (ending : Ending) :
    (lines (replies.flatMap fun r => Utf8.encode r.line) ending).map read = replies.map some := by
  have hlines : ∀ l ∈ replies.map fun r => Utf8.encode r.line,
      ∃ body, 10 ∉ body ∧ l = body ++ [10] := by
    intro l hl
    obtain ⟨r, hr, rfl⟩ := List.mem_map.mp hl
    exact encode_line (h r hr)
  rw [List.flatMap_def, lines_flatten hlines, List.map_map]
  exact List.map_congr_left fun r hr => read_encode_line (h r hr)

/-- **Replies are told apart and read back.** The line of a reply has one line feed, at its end, and
no carriage return; it is the text of an object in which the parts of the reply stand under their
names. So an agent that reads the lines of any replies gets these replies, in order. What a message
wants its reply to be known by can always be written, if it holds no doubles. -/
theorem replies_read_back :
    (∀ r : Reply, r.Writable →
      (∃ body, '\n' ∉ body ∧ '\r' ∉ body ∧ r.line.toList = body ++ ['\n']) ∧
      ∃ members, Value.parse r.line = .ok (.object members) ∧ ofMembers? members = some r) ∧
    (∀ (replies : List Reply) (ending : Ending), (∀ r ∈ replies, r.Writable) →
      (lines (replies.flatMap fun r => Utf8.encode r.line) ending).map read = replies.map some) ∧
    ∀ (text : String) (m : Incoming) (n : Nat), Incoming.parse text = .ok m → m.id.Plain n →
      ∀ output error, (result m.id output error).Writable := by
  refine ⟨fun r h => ⟨?_, ?_⟩, fun replies ending h => read_lines h ending, ?_⟩
  · obtain ⟨body, hbody, hline⟩ := line_eq h
    exact ⟨body, fun hmem => absurd (hbody _ hmem) (by decide),
      fun hmem => absurd (hbody _ hmem) (by decide), hline⟩
  · obtain ⟨members, hvalue, hparts⟩ := ofMembers?_toValue h
    exact ⟨members, hvalue ▸ parse_line h, hparts⟩
  · intro text m n hparse hplain output error
    have hinner := Incoming.inner_id hparse
    exact hinner.nested.portable hinner.settled hplain

/-- Replies with line feeds, carriage returns, quotes and backslashes in their texts. -/
def awkward : List Reply :=
  [.result (.array [.string "\r\n"]) "\n" (some ⟨"\"", "\\"⟩),
    .tools .null "\n\n" [⟨"a\n", "", .object [("\n", .null)]⟩]]

theorem replies_read_back_awkward :
    (∀ r ∈ awkward, r.Writable) ∧
    (lines (awkward.flatMap fun r => Utf8.encode r.line) .closed).map read = awkward.map some ∧
    ∃ m, Incoming.parse (callLine (Value.array [.string "\r\n"]).text "" .null) = .ok m ∧
      m.id.Plain 1 ∧ ∀ output error, (result m.id output error).Writable := by
  have hwritable : ∀ r ∈ awkward, r.Writable := by
    refine List.forall_mem_cons.mpr ⟨?_, List.forall_mem_singleton.mpr ⟨?_, ?_⟩⟩
    · exact portable_array (List.forall_mem_singleton.mpr (portable_string _ _))
    · exact ⟨trivial, rfl⟩
    · refine List.forall_mem_singleton.mpr (portable_object (List.nodup_cons.mpr ?_) ?_)
      · exact ⟨List.not_mem_nil, List.nodup_nil⟩
      · exact List.forall_mem_singleton.mpr ⟨trivial, rfl⟩
  refine ⟨hwritable, replies_read_back.2.1 awkward .closed hwritable, ?_⟩
  have hid : (Value.array [.string "\r\n"]).Plain (depthLimit - 1) :=
    List.forall_mem_singleton.mpr trivial
  have hplain : (Value.array [.string "\r\n"]).Plain 1 := List.forall_mem_singleton.mpr trivial
  have hnull : Value.null.IsScalar := trivial
  have harguments := readsBack_of_isScalar hnull (depthLimit - 1)
  have hparse := @Incoming.parse_callLine _ "" _ .null (identifier_of_plain hid).1 harguments
  exact ⟨_, hparse, hplain, replies_read_back.2.2 _ _ 1 hparse hplain⟩

end Reply

end WidgetForge.Host
