import WidgetForge.Host.Basic
import WidgetForge.Proofs.Json.Fields
import WidgetForge.Proofs.Json.Grammar
import WidgetForge.Proofs.Text.Utf8

/-!
# Which objects are messages

A line that holds an object is a message if the object says one: it has one member for the kind, and
the members that the kind asks for. `Says` tells this by the values that the members have under
each name, so neither the order of the members matters nor what stands under any other name. The
host takes the line for the message if brackets are nested within the limit, and answers any other
line that opens an object as malformed.
-/

namespace WidgetForge.Host

open Json Text Tool

namespace Incoming

/-! ### What objects say -/

/-- What the values of a member that may be missing give: its only value, settled, or `null`. -/
inductive Gives : List Value → Value → Prop where
  /-- The member is missing. -/
  | missing : Gives [] .null
  /-- The member stands once. -/
  | once (v : Value) : Gives [v] v.settle

/-- The object with these members says the message. -/
inductive Says (all : List (String × Value)) : Incoming → Prop where
  /-- It asks for the specifications of the tools. -/
  | listTools {id : Value} (hkind : Keyed.valuesOf "type" all = [.string "list_tools"])
    (hid : Gives (Keyed.valuesOf "id" all) id) : Says all (.listTools id)
  /-- It calls a tool. -/
  | callTool {id : Value} {name : String} {arguments : Value}
    (hkind : Keyed.valuesOf "type" all = [.string "call_tool"])
    (hid : Gives (Keyed.valuesOf "id" all) id)
    (hname : Keyed.valuesOf "name" all = [.string name])
    (harguments : Gives (Keyed.valuesOf "arguments" all) arguments) :
    Says all (.callTool id name arguments)

/-- The names of the members that matter for a message. -/
def keys : Incoming → List String
  | .listTools _ => ["type", "id"]
  | .callTool _ _ _ => ["type", "id", "name", "arguments"]

/-- The members of an object that matter for a message. -/
def relevant (m : Incoming) (all : List (String × Value)) : List (String × Value) :=
  all.filter fun member => member.1 ∈ m.keys

/-- What is said is said by the values under the names that matter, and each of them is the only
one, so their order does not matter either. -/
theorem Says.of_perm {all all' : List (String × Value)} {m : Incoming} (h : Says all m)
    (hperm : ∀ name ∈ m.keys, (Keyed.valuesOf name all).Perm (Keyed.valuesOf name all')) :
    Says all' m := by
  have honly {name : String} (hname : name ∈ m.keys) {v : Value}
      (hv : Keyed.valuesOf name all = [v]) : Keyed.valuesOf name all' = [v] :=
    List.perm_singleton.mp (hv ▸ (hperm name hname).symm)
  have hgives {name : String} (hname : name ∈ m.keys) {v : Value}
      (hv : Gives (Keyed.valuesOf name all) v) : Gives (Keyed.valuesOf name all') v := by
    generalize hvalues : Keyed.valuesOf name all = values at hv
    cases hv with
    | missing =>
      have hnil : Keyed.valuesOf name all' = [] :=
        List.perm_nil.mp (hvalues ▸ (hperm name hname).symm)
      rw [hnil]
      exact .missing
    | once v =>
      rw [honly hname hvalues]
      exact .once v
  cases h with
  | listTools kind id =>
    exact .listTools (honly (by simp [keys]) kind) (hgives (by simp [keys]) id)
  | callTool kind id name arguments =>
    exact .callTool (honly (by simp [keys]) kind) (hgives (by simp [keys]) id)
      (honly (by simp [keys]) name) (hgives (by simp [keys]) arguments)

/-- **The order of the members does not matter, nor what stands under other names.** -/
theorem says_iff_of_relevant {all all' : List (String × Value)} {m : Incoming}
    (h : (m.relevant all).Perm (m.relevant all')) : Says all m ↔ Says all' m := by
  have hperm : ∀ name ∈ m.keys, (Keyed.valuesOf name all).Perm (Keyed.valuesOf name all') := by
    intro name hname
    have hrelevant := Keyed.valuesOf_perm h name
    have hkey : decide (name ∈ m.keys) = true := decide_eq_true hname
    rwa [relevant, relevant, Keyed.valuesOf_filter (p := fun name => decide (name ∈ m.keys)) hkey,
      Keyed.valuesOf_filter (p := fun name => decide (name ∈ m.keys)) hkey] at hrelevant
  exact ⟨fun hsays => hsays.of_perm hperm,
    fun hsays => hsays.of_perm fun name hname => (hperm name hname).symm⟩

/-! ### What stands beside the kind -/

/-- The members that are not the kind. -/
def others (all : List (String × Value)) : List (String × Value) :=
  all.filter fun member => member.1 ≠ tagName

theorem valuesOf_others {name : String} (h : name ≠ tagName) (all : List (String × Value)) :
    Keyed.valuesOf name (others all) = Keyed.valuesOf name all :=
  Keyed.valuesOf_filter (p := fun name => decide (name ≠ tagName)) (decide_eq_true h) all

theorem ofValue_eq_ok {v : Value} {tag : Tag} :
    Tag.ofValue v = .ok tag ↔ v = .string tag.name := by
  cases v with
  | string s =>
    rw [Value.string.injEq]
    constructor
    · intro h
      rw [Tag.ofValue] at h
      split at h
      · next tag' hfind =>
        obtain rfl := Except.ok.inj h
        have hname := List.find?_some hfind
        exact (of_decide_eq_true hname).symm
      · exact nomatch h
    · rintro rfl
      cases tag <;> rfl
  | null | bool b | number n | array items | object members => simp [Tag.ofValue]

/-- What is decoded for a member of any kind that may be missing. -/
theorem decodes_any {name about : String} {values : List Value} {v : Value} :
    (⟨name, .any, about, some .null⟩ : Field).Decodes values v ↔ Gives values v := by
  match values with
  | [] =>
    constructor
    · intro h
      obtain rfl := Option.some.inj h
      exact .missing
    · rintro ⟨⟩
      rfl
  | [w] =>
    constructor
    · intro h
      obtain rfl := Except.ok.inj h
      exact .once w
    · rintro ⟨⟩
      rfl
  | _ :: _ :: _ => exact ⟨nofun, nofun⟩

/-- What is decoded for a string that may not be missing. -/
theorem decodes_text {name about : String} {values : List Value} {s : String} :
    (⟨name, .text, about, none⟩ : Field).Decodes values s ↔ values = [.string s] := by
  match values with
  | [] => exact ⟨nofun, nofun⟩
  | _ :: _ :: _ => exact ⟨nofun, nofun⟩
  | [w] => cases w <;> simp [Field.Decodes, Shape.ofValue, textOf]

/-- What is decoded from the members beside a kind is what the members say. -/
theorem ofContent_eq_ok_iff {all : List (String × Value)} {m : Incoming} :
    (∃ tag, Keyed.valuesOf tagName all = [.string tag.name] ∧
      ofContent (.object (others all)) tag = .ok m) ↔ Says all m := by
  have hlist : listRecord.names.Nodup := by decide
  have hcall : callRecord.names.Nodup := by decide
  have hid := valuesOf_others (show "id" ≠ tagName by decide) all
  have hname := valuesOf_others (show "name" ≠ tagName by decide) all
  have harguments := valuesOf_others (show "arguments" ≠ tagName by decide) all
  constructor
  · rintro ⟨tag, htag, hcontent⟩
    cases tag with
    | listTools =>
      obtain ⟨⟨id, ⟨⟩⟩, hrow, rfl⟩ := exists_of_map hcontent
      obtain ⟨-, hidGiven, -⟩ := (Record.ofObject_iff hlist).mp hrow
      rw [Value.given, hid] at hidGiven
      exact .listTools htag (decodes_any.mp hidGiven)
    | callTool =>
      obtain ⟨⟨id, name, arguments, ⟨⟩⟩, hrow, rfl⟩ := exists_of_map hcontent
      obtain ⟨-, hidGiven, hnameGiven, hargumentsGiven, -⟩ := (Record.ofObject_iff hcall).mp hrow
      rw [Value.given, hid] at hidGiven
      rw [Value.given, hname] at hnameGiven
      rw [Value.given, harguments] at hargumentsGiven
      exact .callTool htag (decodes_any.mp hidGiven) (decodes_text.mp hnameGiven)
        (decodes_any.mp hargumentsGiven)
  · intro h
    cases h with
    | @listTools id kind hidGiven =>
      rw [← hid] at hidGiven
      have hrow : listRecord.ofObject (others all) = .ok (id, ()) :=
        (Record.ofObject_iff hlist).mpr
          ⟨Record.knows_of_open rfl _, decodes_any.mpr hidGiven, trivial⟩
      exact ⟨.listTools, kind, by simp only [ofContent, rowOf, hrow, Except.map]⟩
    | @callTool id name arguments kind hidGiven hnameGiven hargumentsGiven =>
      rw [← hid] at hidGiven
      rw [← hname] at hnameGiven
      rw [← harguments] at hargumentsGiven
      have hrow : callRecord.ofObject (others all) = .ok (id, name, arguments, ()) :=
        (Record.ofObject_iff hcall).mpr ⟨Record.knows_of_open rfl _, decodes_any.mpr hidGiven,
          decodes_text.mpr hnameGiven, decodes_any.mpr hargumentsGiven, trivial⟩
      exact ⟨.callTool, kind, by simp only [ofContent, rowOf, hrow, Except.map]⟩

/-! ### Reading objects -/

section

variable {depth : Nat} {cs tail left : List Char}

/-- Takes a member that has been read. -/
def take (parts : Parts) (member : String × Value) : Option Parts :=
  if member.1 = tagName then
    match parts.1 with
    | some _ => none
    | none => (Tag.ofValue member.2).toOption.map (some ·, parts.2)
  else some (parts.1, member :: parts.2)

/-- A member of a message is read as a value and taken. -/
theorem readPart_iff (parts parts' : Parts) (key : String) (cs left : List Char) :
    readPart depth parts key cs = .ok (parts', left) ↔
      ∃ tail v, colon cs = .ok ((), tail) ∧ value depth tail = .ok (v, left) ∧
        take parts (key, v) = some parts' := by
  unfold readPart take
  by_cases hkey : key = tagName
  · simp only [hkey, if_true]
    cases parts.1 with
    | some tag => simp
    | none =>
      cases hcolon : colon cs with
      | error f => simp
      | ok result =>
        obtain ⟨⟨⟩, tail⟩ := result
        have htag (tag : Tag) : Tag.read tail = .ok (tag, left) ↔
            ∃ v, value depth tail = .ok (v, left) ∧ Tag.ofValue v = .ok tag :=
          readScalar_iff (by simp [ofValue_eq_ok]) (by simp [ofValue_eq_ok])
        refine (map_eq_ok (g := fun tag => (some tag, parts.2))).trans ?_
        simp only [htag, Option.map_eq_some_iff, toOption_eq_some]
        constructor
        · rintro ⟨tag, ⟨v, hv, htake⟩, rfl⟩
          exact ⟨tail, v, rfl, hv, tag, htake, rfl⟩
        · rintro ⟨_, v, ⟨⟩, hv, tag, htake, rfl⟩
          exact ⟨tag, ⟨v, hv, htake⟩, rfl⟩
  · simp only [hkey, if_false]
    refine (map_eq_ok (g := fun read => (parts.1, read))).trans ?_
    constructor
    · rintro ⟨read, hmember, rfl⟩
      obtain ⟨tail, v, hcolon, hv, rfl⟩ := member_iff.mp hmember
      exact ⟨tail, v, hcolon, hv, rfl⟩
    · rintro ⟨tail, v, hcolon, hv, ⟨⟩⟩
      exact ⟨_, member_iff.mpr ⟨tail, v, hcolon, hv, rfl⟩, rfl⟩

/-- Once the kind has been met, the other members are kept and another kind is refused. -/
theorem foldlM_take_some {tag : Tag} {read : List (String × Value)} {parts : Parts}
    {all : List (String × Value)} :
    all.foldlM take (some tag, read) = some parts ↔
      Keyed.valuesOf tagName all = [] ∧ parts = (some tag, (others all).reverse ++ read) := by
  induction all generalizing read with
  | nil => simp [Keyed.valuesOf, others, eq_comm]
  | cons m all ih =>
    obtain ⟨key, v⟩ := m
    by_cases hkey : key = tagName
    · subst hkey
      simp [take, Keyed.valuesOf_cons_self]
    · rw [List.foldlM_cons, Keyed.valuesOf_cons_of_ne hkey, others,
        List.filter_cons_of_pos (by simpa using hkey), List.reverse_cons, List.append_assoc]
      simp only [take, hkey, if_false]
      exact ih

/-- The kind is met once, and the other members are kept. -/
theorem foldlM_take_none {tag : Tag} {read read' : List (String × Value)}
    {all : List (String × Value)} :
    all.foldlM take (none, read) = some (some tag, read') ↔
      Keyed.valuesOf tagName all = [.string tag.name] ∧
        read' = (others all).reverse ++ read := by
  induction all generalizing read with
  | nil => simp [Keyed.valuesOf]
  | cons m all ih =>
    obtain ⟨key, v⟩ := m
    by_cases hkey : key = tagName
    · subst hkey
      have hothers : others ((tagName, v) :: all) = others all := by simp [others]
      rw [List.foldlM_cons, Keyed.valuesOf_cons_self, hothers, List.cons.injEq]
      refine Option.bind_eq_some_iff.trans ?_
      simp only [take, if_true, Option.map_eq_some_iff, toOption_eq_some, ofValue_eq_ok]
      constructor
      · rintro ⟨_, ⟨tag', rfl, rfl⟩, h⟩
        obtain ⟨hvalues, heq⟩ := foldlM_take_some.mp h
        obtain ⟨htag, rfl⟩ := Prod.mk.inj heq
        exact ⟨⟨by rw [Option.some.inj htag], hvalues⟩, rfl⟩
      · rintro ⟨⟨rfl, hvalues⟩, rfl⟩
        exact ⟨_, ⟨tag, rfl, rfl⟩, foldlM_take_some.mpr ⟨hvalues, rfl⟩⟩
    · rw [List.foldlM_cons, Keyed.valuesOf_cons_of_ne hkey, others,
        List.filter_cons_of_pos (by simpa using hkey), List.reverse_cons, List.append_assoc]
      simp only [take, hkey, if_false]
      exact ih

/-- **The kind and what stands beside it are read from the members of an object.** -/
theorem readContent_object (hcs : skipBlanks cs = '\x7b' :: tail) {tag : Tag} {content : Value} :
    readContent (depth + 1) cs = .ok ((tag, content), left) ↔
      ∃ all, value (depth + 1) cs = .ok (.object all, left) ∧
        Keyed.valuesOf tagName all = [.string tag.name] ∧ content = .object (others all) := by
  have hvalue (all : List (String × Value)) : value (depth + 1) cs = .ok (.object all, left) ↔
      members (member (value depth)) [] tail = .ok (all.reverse, left) := by
    rw [value_eq_ok]
    constructor
    · rintro ⟨c, rest, hrest, h⟩
      obtain ⟨rfl, rfl⟩ := List.cons.inj (hcs.symm.trans hrest)
      obtain ⟨n, read, ⟨⟩, hread, ⟨⟩⟩ := h
      rwa [List.reverse_reverse]
    · intro h
      exact ⟨'\x7b', tail, hcs, depth, all.reverse, rfl, h, by rw [List.reverse_reverse]⟩
  have hfold (parts : Parts) := @foldMembers_iff (value depth) tail left _ (readPart depth) take
    (fun _ _ _ _ _ => readPart_iff _ _ _ _ _) (tail.length + 1) true (none, []) parts []
  simp only [List.append_nil] at hfold
  simp only [hvalue]
  unfold readContent
  simp only [hcs, if_true]
  constructor
  · intro h
    split at h
    · exact nomatch h
    · next tag' read rest hmembers =>
      obtain ⟨hcontent, rfl⟩ := Prod.mk.inj (Except.ok.inj h)
      obtain ⟨rfl, rfl⟩ := Prod.mk.inj hcontent
      obtain ⟨all, hread, hall⟩ := (hfold _).mp hmembers
      obtain ⟨hvalues, rfl⟩ := foldlM_take_none.mp hall
      exact ⟨all, hread, hvalues, by simp⟩
    · exact nomatch h
  · rintro ⟨all, hread, hvalues, rfl⟩
    have hmembers : members (readPart depth) (none, []) tail =
        .ok ((some tag, (others all).reverse), left) :=
      (hfold _).mpr ⟨all, hread, foldlM_take_none.mpr ⟨hvalues, by simp⟩⟩
    simp [hmembers]

end

theorem parse_eq_ok {text : String} {m : Incoming} :
    parse text = .ok m ↔ ∃ tag content rest,
      readContent depthLimit text.toList = .ok ((tag, content), rest) ∧
        ofContent content tag = .ok m ∧ skipBlanks rest = [] := by
  unfold parse
  cases readContent depthLimit text.toList with
  | error f => simp
  | ok result =>
    obtain ⟨⟨tag, content⟩, rest⟩ := result
    cases hcontent : ofContent content tag with
    | error e => simp [hcontent]
    | ok message => cases hrest : skipBlanks rest <;> simp [hcontent, hrest]

/-- The text opens an object, behind blanks. -/
def OpensObject (text : String) : Prop := (skipBlanks text.toList).head? = some '\x7b'

/-- **A text that opens an object is read as what its object says.** -/
theorem parse_eq_ok_iff {text : String} (h : OpensObject text) {m : Incoming} :
    parse text = .ok m ↔ ∃ all, IsText depthLimit (.object all) text ∧ Says all m := by
  obtain ⟨tail, hcs⟩ : ∃ tail, skipBlanks text.toList = '\x7b' :: tail := by
    obtain ⟨tail, htail⟩ := List.head?_eq_some_iff.mp h
    exact ⟨tail, htail⟩
  simp only [parse_eq_ok, ← read_iff_isText, ← ofContent_eq_ok_iff, Value.read, readText_eq_ok]
  constructor
  · rintro ⟨tag, content, rest, hread, hcontent, hrest⟩
    obtain ⟨all, hvalue, htag, rfl⟩ := (readContent_object hcs).mp hread
    exact ⟨all, ⟨rest, hvalue, hrest⟩, tag, htag, hcontent⟩
  · rintro ⟨all, ⟨rest, hvalue, hrest⟩, tag, htag, hcontent⟩
    exact ⟨tag, _, rest, (readContent_object hcs).mpr ⟨all, hvalue, htag, rfl⟩, hcontent, hrest⟩

theorem opensObject_of_isText {depth : Nat} {all : List (String × Value)} {text : String}
    (h : IsText depth (.object all) text) : OpensObject text := by
  obtain ⟨before, body, after, hbefore, -, hbody, htext⟩ := h
  have hopen : Json.isBlank '\x7b' = false := by decide
  have hbrackets : ∃ rest, body = '\x7b' :: rest := by
    cases depth with
    | zero => exact nomatch hbody
    | succ depth =>
      rcases hbody with hscalar | hbrackets
      · exact nomatch hscalar
      · obtain ⟨-⟩ := hbrackets
        exact ⟨_, rfl⟩
  obtain ⟨rest, rfl⟩ := hbrackets
  rw [OpensObject, htext, hbefore.skip, List.cons_append, skipBlanks_cons hopen]
  rfl

/-- An object in which brackets are nested deeper than the limit is not read as a message. -/
theorem parse_ne_ok_of_deep {depth : Nat} {all : List (String × Value)} {text : String}
    (h : IsText depth (.object all) text) (hdeep : ¬ (Value.object all).Nested depthLimit)
    (m : Incoming) : parse text ≠ .ok m := by
  intro hparse
  obtain ⟨all', htext, -⟩ := (parse_eq_ok_iff (opensObject_of_isText h)).mp hparse
  exact hdeep (htext.unique h ▸ htext.nested)

end Incoming

/-! ### Lines -/

section

variable {text : String}

/-- A text that opens an object is not blank. -/
theorem not_allBlank_of_opensObject (h : Incoming.OpensObject text) : allBlank text = false := by
  obtain ⟨tail, hcs⟩ := List.head?_eq_some_iff.mp h
  obtain ⟨-, before, -, htext⟩ := skipBlanks_eq_cons.mp hcs
  have hbrace : Text.isBlank '\x7b' = false := by decide
  simp [allBlank, htext, hbrace]

/-- What the line of a text that opens an object amounts to. -/
theorem receive_opensObject (h : Host) (hopens : Incoming.OpensObject text) :
    h.receive (Utf8.encode text) = match Incoming.parse text with
      | .ok m => h.eventOf m
      | .error e => .reply (.malformed e.message) := by
  rw [receive, Utf8.decode_encode]
  simp only [not_allBlank_of_opensObject hopens, Bool.false_eq_true, if_false]
  cases Incoming.parse text <;> rfl

end

open Incoming in
/-- **Which lines with an object are messages**: a line whose text is an object with brackets nested
within the limit is a message just if the object says it, and amounts to it. The order of the
members and what stands under other names do not matter for it, and the values in it are settled:
an object in them has each key once, in the order in which the keys appear first, with the last
value of each. Any other line that opens an object is answered as malformed, under the identifier
`null`, and is no call. -/
theorem object_lines (h : Host) (text : String) :
    (∀ all, IsText depthLimit (.object all) text → ∀ m, (parse text = .ok m ↔ Says all m) ∧
      (Says all m → h.receive (Utf8.encode text) = h.eventOf m)) ∧
    (OpensObject text → (∀ all m, IsText depthLimit (.object all) text → ¬ Says all m) →
      ∃ reason, h.receive (Utf8.encode text) =
        .reply (.result .null ("Malformed request: " ++ reason)
          (some ⟨"malformed_request", reason⟩))) ∧
    (∀ all all' m, (relevant m all).Perm (relevant m all') → (Says all m ↔ Says all' m)) ∧
    ∀ v : Value, v.Settles v.settle := by
  refine ⟨fun all htext m => ?_, fun hopens hnone => ?_, fun all all' m => says_iff_of_relevant,
    Value.settles_settle⟩
  · have hopens := opensObject_of_isText htext
    have hparse : parse text = .ok m ↔ Says all m := by
      rw [parse_eq_ok_iff hopens]
      constructor
      · rintro ⟨all', htext', hsays⟩
        obtain rfl : all' = all := by simpa using htext'.unique htext
        exact hsays
      · exact fun hsays => ⟨all, htext, hsays⟩
    refine ⟨hparse, fun hsays => ?_⟩
    rw [receive_opensObject h hopens, hparse.mpr hsays]
  · cases hparse : parse text with
    | ok m =>
      obtain ⟨all, htext, hsays⟩ := (parse_eq_ok_iff hopens).mp hparse
      exact absurd hsays (hnone all m htext)
    | error e =>
      refine ⟨e.message, ?_⟩
      rw [receive_opensObject h hopens, hparse]
      rfl

/-- The members of a call in no particular order, among others. -/
def scattered : List (String × Value) :=
  [("note", .null), ("arguments", .object [("b", .string "1"), ("a", .null), ("b", .string "2")]),
    ("type", .string "call_tool"), ("note", .array []), ("name", .string "add")]

theorem object_lines_scattered :
    IsText depthLimit (.object scattered) (Value.object scattered).text ∧
    Incoming.parse (Value.object scattered).text =
      .ok (.callTool .null "add" (.object [("b", .string "2"), ("a", .null)])) := by
  have htext : IsText depthLimit (.object scattered) (Value.object scattered).text :=
    isText_text (by simp [scattered, Value.Plain, Value.IsScalar, depthLimit])
  have hsays : Incoming.Says scattered
      (.callTool .null "add" (.object [("b", .string "2"), ("a", .null)])) :=
    .callTool rfl .missing rfl (.once (.object _))
  exact ⟨htext, (((object_lines ⟨.empty, ""⟩ _).1 scattered htext _).1).mpr hsays⟩

/-- The members of a request for the specifications whose identifier is nested too deep. -/
def buried : List (String × Value) :=
  [("type", .string "list_tools"), ("id", .nest (depthLimit - 1))]

/-- The limit on brackets is in the way of some objects: one whose identifier is nested that deep
says a message, and its text is not read as one. -/
theorem buried_is_no_message :
    IsText (depthLimit + 1) (.object buried) (Value.object buried).text ∧
    Incoming.Says buried (.listTools (.nest (depthLimit - 1))) ∧
    ∀ m, Incoming.parse (Value.object buried).text ≠ .ok m := by
  have hplain : (Value.object buried).Plain (depthLimit + 1) :=
    List.forall_mem_cons.mpr ⟨trivial, List.forall_mem_singleton.mpr (plain_nest _)⟩
  have hdeep : ¬ (Value.object buried).Nested depthLimit := fun h =>
    not_nested_nest (depthLimit - 1) (h ("id", .nest (depthLimit - 1)) (by simp [buried]))
  have hid : Incoming.Gives (Keyed.valuesOf "id" buried) (.nest (depthLimit - 1)) := by
    have honce := Incoming.Gives.once (.nest (depthLimit - 1))
    rwa [settle_nest] at honce
  exact ⟨isText_text hplain, .listTools rfl hid,
    Incoming.parse_ne_ok_of_deep (isText_text hplain) hdeep⟩

end WidgetForge.Host
