import WidgetForge.Host.Basic
import WidgetForge.Proofs.Host.Lines
import WidgetForge.Proofs.Json.OneLine
import WidgetForge.Proofs.Json.Records
import WidgetForge.Proofs.Text.Utf8

/-!
# The line of a call

A call is written as an object: its kind, its identifier, the name of the tool and the arguments.
The identifier may be any JSON that stands on one line, so it is given by its text. A host that
receives the line takes it for this call.
-/

namespace WidgetForge.Host

open Json Text

/-- The members of a message that calls a tool. -/
def callMembers (id : String) (name : String) (arguments : Value) : List Member :=
  [(Incoming.tagName, writeString Tag.callTool.name), ("id", id.toList), ("name", writeString name),
    ("arguments", arguments.write)]

/-- The line of a message that calls a tool, with its line feed. -/
def callLine (id : String) (name : String) (arguments : Value) : String :=
  String.ofList ('\x7b' :: (memberTexts (callMembers id name arguments) ++ ['\x7d', '\n']))

example : callLine "7" "add" (.array []) =
    "\x7b\"type\":\"call_tool\",\"id\":7,\"name\":\"add\",\"arguments\":[]\x7d\n" := by
  decide +kernel

namespace Incoming

theorem read_tag (tag : Tag) {rest : List Char} (hrest : Stops rest) :
    Tag.read (writeString tag.name ++ rest) = .ok (tag, rest) := by
  have hread : scalar (writeString tag.name ++ rest) = .ok (.string tag.name, rest) :=
    @scalar_write (.string tag.name) trivial rest hrest
  have htag : Tag.ofValue (.string tag.name) = .ok tag := by cases tag <;> rfl
  exact readScalar_of_scalar hread htag

theorem readPart_tag (depth : Nat) (tag : Tag) (read : List (String × Value)) {rest : List Char}
    (hrest : Stops rest) :
    readPart depth (none, read) tagName (':' :: (writeString tag.name ++ rest)) =
      .ok ((some tag, read), rest) := by
  simp [readPart, colon_cons, read_tag tag hrest, Except.map]

theorem readPart_other {depth : Nat} {key : String} (hkey : key ≠ tagName) {parts : Parts}
    {cs rest : List Char} {v : Value} (h : value depth cs = .ok (v, rest)) :
    readPart depth parts key (':' :: cs) = .ok ((parts.1, (key, v) :: parts.2), rest) := by
  simp [readPart, hkey, member, colon_cons, h, Except.map]

variable {id name : String} {v arguments : Value}

/-- The members of a call are read as its kind and three members. -/
theorem leads_callMembers {depth : Nat} (hid : value depth id.toList = .ok (v, []))
    (harguments : ReadsBack (value depth) arguments) :
    Leads (readPart depth) (none, []) (callMembers id name arguments)
      (some .callTool, [("arguments", arguments), ("name", .string name), ("id", v)]) := by
  have hname := readsBack_of_isScalar (v := .string name) trivial depth
  have hidKey : "id" ≠ tagName := by decide
  have hnameKey : "name" ≠ tagName := by decide
  have hargumentsKey : "arguments" ≠ tagName := by decide
  refine .cons (fun rest hrest => readPart_tag depth .callTool [] hrest) ?_
  refine .cons (fun rest hrest => readPart_other hidKey
    (local_value depth id.toList v [] hid rest fun _ => hrest)) ?_
  refine .cons (fun rest hrest => readPart_other hnameKey (hname.2 rest hrest)) ?_
  exact .cons (fun rest hrest => readPart_other hargumentsKey (harguments.2 rest hrest)) (.nil _)

/-- What stands beside the kind of a call makes up the call. -/
theorem ofContent_call (id : Value) (name : String) (arguments : Value) :
    ofContent (.object [("id", id), ("name", .string name), ("arguments", arguments)]) .callTool =
      .ok (.callTool id.settle name arguments.settle) := by
  rfl

/-- The line of a call is read as the call. -/
theorem parse_callLine (hid : value (depthLimit - 1) id.toList = .ok (v, []))
    (harguments : ReadsBack (value (depthLimit - 1)) arguments) :
    parse (callLine id name arguments) = .ok (.callTool v.settle name arguments.settle) := by
  have hread := members_memberTexts (@leads_callMembers id name v arguments _ hid harguments) ['\n']
  have hopen : Json.isBlank '\x7b' = false := by decide
  have hblank : skipBlanks ['\n'] = [] := by decide
  have hlimit : depthLimit - 1 = 126 := rfl
  have hcontent : readContent depthLimit (callLine id name arguments).toList =
      .ok ((.callTool, .object [("id", v), ("name", .string name), ("arguments", arguments)]),
        ['\n']) := by
    rw [hlimit] at hread
    rw [callLine, String.toList_ofList, readContent, skipBlanks_cons hopen]
    simp only [if_true, depthLimit, hread]
    rfl
  simp only [parse, hcontent, ofContent_call, hblank]

end Incoming

section

variable {id name : String} {v arguments : Value}

/-- A line feed stands only at the end of the line of a call. -/
theorem encode_callLine (hid : '\n' ∉ id.toList) (harguments : '\n' ∉ arguments.write) :
    ∃ body, 10 ∉ body ∧ Utf8.encode (callLine id name arguments) = body ++ [10] := by
  have hfeed : '\n'.toNat < 32 := by decide
  have hmembers : ∀ m ∈ callMembers id name arguments, '\n' ∉ m.2 := by
    simp [callMembers, control_not_mem_writeString hfeed, hid, harguments]
  have hbody : '\n' ∉ '\x7b' :: (memberTexts (callMembers id name arguments) ++ ['\x7d']) := by
    simp [control_not_mem_memberTexts hfeed hmembers]
  refine Utf8.encode_line hbody ?_
  rw [callLine, String.toList_ofList]
  simp

/-- Any value without doubles that is nested within the limit can be an identifier. -/
theorem identifier_of_plain (h : v.Plain (depthLimit - 1)) :
    value (depthLimit - 1) v.text.toList = .ok (v, []) ∧ '\n' ∉ v.text.toList := by
  have hread := (value_write h).2 [] Stops.nil
  rw [List.append_nil] at hread
  rw [Value.text, String.toList_ofList]
  exact ⟨hread, control_not_mem_write (by decide) h⟩

/-- **A host takes the line of a call for the call.** -/
theorem receive_callLine (h : Host) (hid : value (depthLimit - 1) id.toList = .ok (v, []))
    (harguments : ReadsBack (value (depthLimit - 1)) arguments) :
    h.receive (Utf8.encode (callLine id name arguments)) =
      .call ⟨v.settle, name, arguments.settle⟩ := by
  have hbrace : Text.isBlank '\x7b' = false := by decide
  have hblank : allBlank (callLine id name arguments) = false := by
    simp [allBlank, callLine, hbrace]
  simp only [receive, Utf8.decode_encode, hblank, Bool.false_eq_true, if_false,
    Incoming.parse_callLine hid harguments, eventOf]

end

end WidgetForge.Host
