import WidgetForge.Host.Incoming
import WidgetForge.Proofs.Json.Records

/-!
# Identifiers

What a reply is known by is any value that the message holds under its name. It has been read inside
the brackets of the message, so it is nested one level less deep than a text may be, and it has been
settled.
-/

namespace WidgetForge.Host.Incoming

open Json

/-- What the reply to a message is known by. -/
def id : Incoming → Value
  | .listTools id => id
  | .callTool id _ _ => id

/-- A value that has been read `depth` levels from the limit, and settled. -/
structure Inner (depth : Nat) (v : Value) : Prop where
  nested : v.Nested depth
  settled : v.settle = v

/-- Members of any kind are such values. -/
def Whole (depth : Nat) : (shape : Shape) → shape.Carrier → Prop
  | .any, v => Inner depth v
  | _, _ => True

section

variable {depth : Nat} {cs rest : List Char}

theorem gives_whole {v : Value} (h : v.Nested depth) : v.Gives (Whole depth) := by
  intro shape a htake
  cases shape with
  | any =>
    obtain rfl := Except.ok.inj htake
    exact ⟨h.settle, settle_settle v⟩
  | text | path | int64 | flag | texts | optional shape => trivial

/-- What has been read beside the kind is nested as deep as a reader may go. -/
theorem nested_of_readPart {parts parts' : Parts} {key : String}
    (hparts : ∀ m ∈ parts.2, m.2.Nested depth)
    (h : readPart depth parts key cs = .ok (parts', rest)) : ∀ m ∈ parts'.2, m.2.Nested depth := by
  unfold readPart at h
  split_ifs at h
  · split at h
    · exact nomatch h
    · split at h
      · exact nomatch h
      · obtain ⟨tag, -, rfl⟩ := (map_eq_ok (g := fun tag => (some tag, parts.2))).mp h
        exact hparts
  · obtain ⟨read, hmember, rfl⟩ := map_eq_ok.mp h
    obtain ⟨tail, v, -, hv, rfl⟩ := member_iff.mp hmember
    exact List.forall_mem_cons.mpr ⟨nested_of_value hv, hparts⟩

/-- All members beside the kind are nested as deep as a reader may go. -/
theorem nested_of_members {tag : Option Tag} {read : List (String × Value)}
    (h : members (readPart depth) (none, []) cs = .ok ((tag, read), rest)) :
    ∀ m ∈ read, m.2.Nested depth :=
  foldMembers_keeps (I := fun parts : Parts => ∀ m ∈ parts.2, m.2.Nested depth)
    (fun _ _ _ _ _ => nested_of_readPart) (List.forall_mem_nil _) h

/-- All items behind the kind are nested as deep as a reader may go. -/
theorem nested_of_readRest {items : List Value} (h : readRest depth cs = .ok (items, rest)) :
    ∀ v ∈ items, v.Nested depth := by
  obtain ⟨read, hread, rfl⟩ := (map_eq_ok (g := List.reverse)).mp h
  have hnested := forall_of_foldItems (fun _ _ _ => nested_of_value) hread
  exact fun v hv => hnested v (List.mem_reverse.mp hv)

/-- **What stands beside the kind of a message is nested within the limit.** -/
theorem nested_of_readContent {tag : Tag} {content : Value}
    (h : readContent depth cs = .ok ((tag, content), rest)) : content.Nested depth := by
  unfold readContent at h
  split at h
  · exact nomatch h
  · next c tail hcs =>
    split_ifs at h
    · cases depth with
      | zero => exact nomatch h
      | succ depth =>
        simp only at h
        split at h
        · exact nomatch h
        · next hmembers =>
          simp only [Except.ok.injEq, Prod.mk.injEq] at h
          obtain ⟨⟨-, rfl⟩, -⟩ := h
          exact fun m hm => nested_of_members hmembers m (List.mem_reverse.mp hm)
        · exact nomatch h
    · cases depth with
      | zero => exact nomatch h
      | succ depth =>
        simp only at h
        split at h
        · exact nomatch h
        · exact nomatch h
        · split at h
          · exact nomatch h
          · next tag' _ _ =>
            obtain ⟨items, hitems, heq⟩ :=
              (map_eq_ok (g := fun items => (tag', Value.array items))).mp h
            obtain ⟨-, rfl⟩ := Prod.mk.inj heq
            exact nested_of_readRest hitems
    · obtain ⟨_, _, _, _, _, _, _, htake⟩ := readScalar_eq_ok.mp h
      exact nomatch htake

theorem every_rowOf {r : Record} (habsent : Field.Every (Whole depth) r.fields) {content : Value}
    {row : Row r.fields} (hcontent : content.Nested (depth + 1))
    (h : rowOf r content = .ok row) : Row.Every (Whole depth) r.fields row := by
  cases content with
  | object members =>
    exact Record.every_ofObject habsent (fun m hm => gives_whole (hcontent m hm)) h
  | array items =>
    exact Record.every_ofArray habsent (fun v hv => gives_whole (hcontent v hv)) h
  | null | bool b | number n | string s => exact nomatch h

end

theorem inner_null (depth : Nat) : Inner depth .null := by
  cases depth with
  | zero => exact ⟨trivial, rfl⟩
  | succ depth => exact ⟨trivial, rfl⟩

theorem every_absent_listRecord (depth : Nat) : Field.Every (Whole depth) listRecord.fields := by
  intro f hf a ha
  obtain rfl := List.mem_singleton.mp hf
  obtain rfl := Option.some.inj ha
  exact inner_null depth

theorem every_absent_callRecord (depth : Nat) : Field.Every (Whole depth) callRecord.fields := by
  intro f hf a ha
  simp only [callRecord, List.mem_cons, List.not_mem_nil, or_false] at hf
  rcases hf with rfl | rfl | rfl
  · obtain rfl := Option.some.inj ha
    exact inner_null depth
  · exact nomatch ha
  · obtain rfl := Option.some.inj ha
    exact inner_null depth

/-- **What a reply is known by has been read inside the brackets of a message.** -/
theorem inner_id {text : String} {m : Incoming} (h : parse text = .ok m) :
    Inner (depthLimit - 1) m.id := by
  unfold parse at h
  split at h
  · exact nomatch h
  · next tag content rest hread =>
    have hcontent : content.Nested (depthLimit - 1 + 1) := nested_of_readContent hread
    split at h
    · exact nomatch h
    · next message hmessage =>
      split at h
      · obtain rfl := Except.ok.inj h
        cases tag with
        | listTools =>
          obtain ⟨row, hrow, rfl⟩ := exists_of_map hmessage
          exact (every_rowOf (every_absent_listRecord _) hcontent hrow).1
        | callTool =>
          obtain ⟨row, hrow, rfl⟩ := exists_of_map hmessage
          exact (every_rowOf (every_absent_callRecord _) hcontent hrow).1
      · exact nomatch h

end WidgetForge.Host.Incoming
