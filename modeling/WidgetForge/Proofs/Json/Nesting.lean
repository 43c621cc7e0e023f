import WidgetForge.Proofs.Json.Values
import WidgetForge.Proofs.Keyed

/-!
# How deep the values of a text are nested

A reader that may go through some brackets gives values with no more brackets around anything in
them. Settling a value leaves it no deeper, and settling it again changes nothing.
-/

namespace WidgetForge.Json

/-! ### What items and members keep -/

section

variable {σ : Type} {I : σ → Prop} {fuel : Nat} {first : Bool} {s s' : σ} {cs left : List Char}

/-- What each item keeps, all items keep. -/
theorem foldItems_keeps {step : σ → Reader σ}
    (hstep : ∀ s cs s' left, I s → step s cs = .ok (s', left) → I s') (hs : I s)
    (h : foldItems step fuel first s cs = .ok (s', left)) : I s' := by
  induction fuel generalizing first s cs with
  | zero => exact nomatch h
  | succ fuel ih =>
    rcases foldItems_succ.mp h with ⟨-, rfl⟩ | ⟨rest, s₁, rest₁, -, hitem, h⟩
    · exact hs
    · exact ih (hstep s rest s₁ rest₁ hs hitem) h

/-- What each member keeps, all members keep. -/
theorem foldMembers_keeps {step : σ → String → Reader σ}
    (hstep : ∀ s key cs s' left, I s → step s key cs = .ok (s', left) → I s') (hs : I s)
    (h : foldMembers step fuel first s cs = .ok (s', left)) : I s' := by
  induction fuel generalizing first s cs with
  | zero => exact nomatch h
  | succ fuel ih =>
    rcases foldMembers_succ.mp h with ⟨-, rfl⟩ | ⟨key, rest, s₁, rest₁, -, hmember, h⟩
    · exact hs
    · exact ih (hstep s key rest s₁ rest₁ hs hmember) h

end

section

variable {f : Reader Value} {cs rest : List Char}

theorem item_iff {read all : List Value} :
    item f read cs = .ok (all, rest) ↔ ∃ v, f cs = .ok (v, rest) ∧ all = v :: read := by
  refine (map_eq_ok (g := fun v => v :: read)).trans ?_
  simp only [eq_comm]

theorem member_iff {read all : List (String × Value)} {key : String} :
    member f read key cs = .ok (all, rest) ↔
      ∃ tail v, colon cs = .ok ((), tail) ∧ f tail = .ok (v, rest) ∧ all = (key, v) :: read := by
  unfold member
  cases hcolon : colon cs with
  | error e => simp
  | ok result =>
    obtain ⟨⟨⟩, tail⟩ := result
    refine (map_eq_ok (g := fun v => (key, v) :: read)).trans ?_
    constructor
    · rintro ⟨v, hv, rfl⟩
      exact ⟨tail, v, rfl, hv, rfl⟩
    · rintro ⟨_, v, ⟨⟩, hv, rfl⟩
      exact ⟨v, hv, rfl⟩

variable {P : Value → Prop} {fuel : Nat} {first : Bool}

/-- Items are values that the reader gives. -/
theorem forall_of_foldItems {read : List Value}
    (hf : ∀ cs v rest, f cs = .ok (v, rest) → P v)
    (h : foldItems (item f) fuel first [] cs = .ok (read, rest)) : ∀ v ∈ read, P v := by
  refine foldItems_keeps (I := fun read => ∀ v ∈ read, P v) ?_ (List.forall_mem_nil _) h
  intro read cs read' left hread hitem
  obtain ⟨v, hv, rfl⟩ := item_iff.mp hitem
  exact List.forall_mem_cons.mpr ⟨hf cs v left hv, hread⟩

/-- The values of members are values that the reader gives. -/
theorem forall_of_foldMembers {read : List (String × Value)}
    (hf : ∀ cs v rest, f cs = .ok (v, rest) → P v)
    (h : foldMembers (member f) fuel first [] cs = .ok (read, rest)) : ∀ m ∈ read, P m.2 := by
  refine foldMembers_keeps (I := fun read => ∀ m ∈ read, P m.2) ?_ (List.forall_mem_nil _) h
  intro read key cs read' left hread hmember
  obtain ⟨tail, v, -, hv, rfl⟩ := member_iff.mp hmember
  exact List.forall_mem_cons.mpr ⟨hf tail v left hv, hread⟩

end

/-! ### Scalars -/

section

variable {cs rest : List Char}

theorem eq_of_word {α : Type} {a b : α} {letters : List Char}
    (h : word a letters cs = .ok (b, rest)) : b = a := by
  induction letters generalizing cs with
  | nil =>
    rw [word] at h
    exact (Prod.mk.inj (Except.ok.inj h)).1.symm
  | cons l letters ih =>
    cases cs with
    | nil => cases h
    | cons c cs =>
      rw [word] at h
      split_ifs at h
      exact ih h

/-- What is read as a scalar has no brackets. -/
theorem unbracketed_of_scalar {v : Value} (h : scalar cs = .ok (v, rest)) :
    (∀ all, v ≠ .array all) ∧ ∀ all, v ≠ .object all := by
  cases cs with
  | nil => exact nomatch h
  | cons c tail =>
    unfold scalar at h
    simp only at h
    split_ifs at h
    · rw [eq_of_word h]
      exact ⟨nofun, nofun⟩
    · rw [eq_of_word h]
      exact ⟨nofun, nofun⟩
    · rw [eq_of_word h]
      exact ⟨nofun, nofun⟩
    · obtain ⟨n, -, rfl⟩ := (map_eq_ok (g := Value.number)).mp h
      exact ⟨nofun, nofun⟩
    · obtain ⟨n, -, rfl⟩ := (map_eq_ok (g := Value.number)).mp h
      exact ⟨nofun, nofun⟩
    · obtain ⟨s, -, rfl⟩ := (map_eq_ok (g := Value.string)).mp h
      exact ⟨nofun, nofun⟩

end

/-! ### Nesting -/

/-- A value in which brackets are nested at most `depth` deep. -/
def Value.Nested : Nat → Value → Prop
  | depth + 1, .array all => ∀ v ∈ all, Value.Nested depth v
  | depth + 1, .object all => ∀ m ∈ all, Value.Nested depth m.2
  | 0, .array _ | 0, .object _ => False
  | _, _ => True

theorem nested_of_unbracketed {v : Value} (h : (∀ all, v ≠ .array all) ∧ ∀ all, v ≠ .object all)
    (depth : Nat) : v.Nested depth := by
  match depth, v, h with
  | _, .array all, h => exact absurd rfl (h.1 all)
  | _, .object all, h => exact absurd rfl (h.2 all)
  | 0, .null, _ | 0, .bool _, _ | 0, .number _, _ | 0, .string _, _ => trivial
  | _ + 1, .null, _ | _ + 1, .bool _, _ | _ + 1, .number _, _ | _ + 1, .string _, _ => trivial

/-- A value without doubles that is nested at most so deep can be written as deep. -/
theorem Value.Nested.plain {depth n : Nat} {v : Value} (h : v.Nested depth) (hplain : v.Plain n) :
    v.Plain depth := by
  induction depth generalizing v n with
  | zero =>
    match n, v, h, hplain with
    | 0, .null, _, hplain | 0, .bool _, _, hplain | 0, .number _, _, hplain
    | 0, .string _, _, hplain | _ + 1, .null, _, hplain | _ + 1, .bool _, _, hplain
    | _ + 1, .number _, _, hplain | _ + 1, .string _, _, hplain => exact hplain
  | succ depth ih =>
    match n, v, h, hplain with
    | n + 1, .array all, h, hplain => exact fun v hv => ih (h v hv) (hplain v hv)
    | n + 1, .object all, h, hplain => exact fun m hm => ih (h m hm) (hplain m hm)
    | 0, .null, _, hplain | 0, .bool _, _, hplain | 0, .number _, _, hplain
    | 0, .string _, _, hplain | _ + 1, .null, _, hplain | _ + 1, .bool _, _, hplain
    | _ + 1, .number _, _, hplain | _ + 1, .string _, _, hplain => exact hplain

/-- **A reader gives values that are nested as deep as it may go.** -/
theorem nested_of_value {depth : Nat} {cs rest : List Char} {v : Value}
    (h : value depth cs = .ok (v, rest)) : v.Nested depth := by
  induction depth generalizing cs v rest with
  | zero =>
    obtain ⟨c, tail, -, h⟩ := value_eq_ok.mp h
    split_ifs at h
    · obtain ⟨n, -, hn, -⟩ := h
      exact nomatch hn
    · obtain ⟨n, -, hn, -⟩ := h
      exact nomatch hn
    · exact nested_of_unbracketed (unbracketed_of_scalar h) 0
  | succ depth ih =>
    obtain ⟨c, tail, -, h⟩ := value_eq_ok.mp h
    split_ifs at h
    · obtain ⟨n, read, ⟨⟩, hitems, rfl⟩ := h
      have hread := forall_of_foldItems (fun _ _ _ => ih) hitems
      exact fun v hv => hread v (List.mem_reverse.mp hv)
    · obtain ⟨n, read, ⟨⟩, hmembers, rfl⟩ := h
      have hread := forall_of_foldMembers (fun _ _ _ => ih) hmembers
      exact fun m hm => hread m (List.mem_reverse.mp hm)
    · exact nested_of_unbracketed (unbracketed_of_scalar h) _

/-! ### Settling -/

theorem settleItems_eq_map (all : List Value) : settleItems all = all.map Value.settle := by
  induction all with
  | nil => rfl
  | cons v all ih => rw [settleItems, ih, List.map_cons]

theorem settleMembers_eq_map (all : List (String × Value)) :
    settleMembers all = all.map (Prod.map id Value.settle) := by
  induction all with
  | nil => rfl
  | cons m all ih => rw [settleMembers, ih, List.map_cons, Prod.map, id]

/-- The values of the members of a settled object are settled values of its members. -/
theorem exists_of_mem_settled {all : List (String × Value)} {m : String × Value}
    (h : m ∈ Keyed.ofList (settleMembers all)) : ∃ n ∈ all, m = (n.1, n.2.settle) := by
  have hmem := Keyed.mem_of_mem_ofList h
  rw [settleMembers_eq_map] at hmem
  obtain ⟨n, hn, rfl⟩ := List.mem_map.mp hmem
  exact ⟨n, hn, rfl⟩

theorem Value.Nested.settle {depth : Nat} {v : Value} (h : v.Nested depth) :
    v.settle.Nested depth := by
  induction depth generalizing v with
  | zero =>
    match v, h with
    | .null, h | .bool _, h | .number _, h | .string _, h => exact h
  | succ depth ih =>
    match v, h with
    | .array all, h =>
      rw [Value.settle, settleItems_eq_map]
      intro w hw
      obtain ⟨v, hv, rfl⟩ := List.mem_map.mp hw
      exact ih (h v hv)
    | .object all, h =>
      rw [Value.settle]
      intro m hm
      obtain ⟨n, hn, rfl⟩ := exists_of_mem_settled hm
      exact ih (h n hn)
    | .null, h | .bool _, h | .number _, h | .string _, h => exact h

theorem settleMembers_of_forall {all : List (String × Value)} (h : ∀ m ∈ all, m.2.settle = m.2) :
    settleMembers all = all := by
  induction all with
  | nil => rfl
  | cons m all ih =>
    obtain ⟨key, v⟩ := m
    rw [settleMembers, show v.settle = v from h (key, v) List.mem_cons_self,
      ih fun n hn => h n (List.mem_cons_of_mem _ hn)]

mutual

/-- **What is settled stays as it is.** -/
theorem settle_settle : (v : Value) → v.settle.settle = v.settle
  | .array all => by rw [Value.settle, Value.settle, settleItems_settleItems all]
  | .object all => by
    have hmembers := settleMembers_of_forall fun m hm =>
      settled_of_mem all m (Keyed.mem_of_mem_ofList hm)
    rw [Value.settle, Value.settle, hmembers, Keyed.ofList_of_nodup (Keyed.nodup_ofList _)]
  | .null | .bool _ | .number _ | .string _ => rfl

theorem settleItems_settleItems : (all : List Value) →
    settleItems (settleItems all) = settleItems all
  | [] => rfl
  | v :: all => by rw [settleItems, settleItems, settle_settle v, settleItems_settleItems all]

theorem settled_of_mem : (all : List (String × Value)) → ∀ m ∈ settleMembers all,
    m.2.settle = m.2
  | [], _, h => absurd h List.not_mem_nil
  | (k, v) :: all, m, h => by
    rcases List.mem_cons.mp h with rfl | h
    · exact settle_settle v
    · exact settled_of_mem all m h

end

/-- What settling leaves of a value: of an array its items, settled, and of an object one member for
each key, in the order in which the keys appear first, with the last of its values, settled. -/
def Value.Settles : Value → Value → Prop
  | .array items, w => w = .array (items.map Value.settle)
  | .object all, w => ∃ settled, w = .object settled ∧
      Keyed.LastOf (all.map (Prod.map id Value.settle)) settled
  | v, w => w = v

/-- **Values are settled as they should be.** -/
theorem Value.settles_settle (v : Value) : v.Settles v.settle := by
  cases v with
  | array items => exact congrArg Value.array (settleItems_eq_map items)
  | object all =>
    refine ⟨_, rfl, ?_⟩
    rw [settleMembers_eq_map]
    exact Keyed.lastOf_ofList _
  | null | bool b | number n | string s => rfl

/-! ### Values that survive being written -/

/-- A value that is read back as it is where brackets may be nested `depth` deep: it holds no
doubles, it is not nested deeper, and no object in it repeats a key. -/
structure Value.Portable (depth : Nat) (v : Value) : Prop where
  plain : v.Plain depth
  settled : v.settle = v

section

variable {depth : Nat}

theorem portable_string (s : String) (depth : Nat) : (Value.string s).Portable depth :=
  ⟨plain_of_isScalar (show (Value.string s).IsScalar from trivial) depth, rfl⟩

theorem portable_array {all : List Value} (h : ∀ v ∈ all, v.Portable depth) :
    (Value.array all).Portable (depth + 1) := by
  refine ⟨fun v hv => (h v hv).plain, ?_⟩
  rw [Value.settle, settleItems_eq_map, List.map_congr_left fun v hv => (h v hv).settled,
    List.map_id']

theorem portable_object {all : List (String × Value)} (hnames : (Keyed.names all).Nodup)
    (h : ∀ m ∈ all, m.2.Portable depth) : (Value.object all).Portable (depth + 1) := by
  refine ⟨fun m hm => (h m hm).plain, ?_⟩
  rw [Value.settle, settleMembers_of_forall fun m hm => (h m hm).settled,
    Keyed.ofList_of_nodup hnames]

/-- A value that has been read, and settled, and holds no doubles can be written again. -/
theorem Value.Nested.portable {v : Value} (h : v.Nested depth) (hsettled : v.settle = v) {n : Nat}
    (hplain : v.Plain n) : v.Portable depth :=
  ⟨h.plain hplain, hsettled⟩

end

end WidgetForge.Json
