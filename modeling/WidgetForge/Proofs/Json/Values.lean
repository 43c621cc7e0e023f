import WidgetForge.Proofs.Json.Numbers

/-!
# What is written is read back

The items of an array and the members of an object are read one by one, each up to the comma or the
bracket behind it. So a value that is written reads back, at any place of a text, if the limit on
brackets allows it and if it holds no doubles.
-/

namespace WidgetForge.Json

/-! ### Scalars -/

/-- A scalar begins with its own character. -/
theorem scalar_head {cs : List Char} {a : Value × List Char} (h : scalar cs = .ok a) :
    ∃ c rest, cs = c :: rest ∧ isBlank c = false ∧ c ≠ '[' ∧ c ≠ '\x7b' := by
  cases cs with
  | nil => exact nomatch h
  | cons c rest =>
    refine ⟨c, rest, rfl, ?_, ?_, ?_⟩
    · by_contra hblank
      simp only [Bool.not_eq_false, isBlank, Bool.or_eq_true, decide_eq_true_eq] at hblank
      rcases hblank with ((rfl | rfl) | rfl) | rfl <;> exact nomatch h
    · rintro rfl
      exact nomatch h
    · rintro rfl
      exact nomatch h

theorem skipBlanks_cons {c : Char} (h : isBlank c = false) (rest : List Char) :
    skipBlanks (c :: rest) = c :: rest := by
  rw [skipBlanks, h, if_neg Bool.false_ne_true]

/-- What is read as a scalar is read as a value. -/
theorem value_of_scalar {cs : List Char} {a : Value × List Char} (h : scalar cs = .ok a)
    (depth : Nat) : value depth cs = .ok a := by
  obtain ⟨c, rest, rfl, hblank, hbracket, hbrace⟩ := scalar_head h
  rw [value.eq_def]
  simp only [skipBlanks_cons hblank, hbracket, hbrace, if_false, h]

theorem scalar_string {cs rest : List Char} {s : String} (h : string cs = .ok (s, rest)) :
    scalar ('"' :: cs) = .ok (.string s, rest) := by
  simp [scalar, h, Except.map]

/-- A value that needs no brackets and holds no double. -/
def Value.IsScalar : Value → Prop
  | .null | .bool _ | .number (.integer _ _) | .string _ => True
  | .number (.real _) | .array _ | .object _ => False

/-- A scalar that is written reads back. -/
theorem scalar_write {v : Value} (h : v.IsScalar) {rest : List Char} (hrest : Stops rest) :
    scalar (v.write ++ rest) = .ok (v, rest) := by
  match v, h with
  | .null, _ => simp [Value.write, scalar, word]
  | .bool true, _ => simp [Value.write, scalar, word]
  | .bool false, _ => simp [Value.write, scalar, word]
  | .number (.integer _ hi), _ => exact scalar_integer hi hrest
  | .string s, _ =>
    obtain ⟨tail, htail, hread⟩ := string_writeString s rest
    rw [Value.write, htail, scalar_string hread]

/-! ### Arrays -/

/-- The text of a value that can be written begins with a character of its own. -/
def Opens (cs : List Char) : Prop :=
  ∃ c rest, cs = c :: rest ∧ isBlank c = false ∧ c ≠ ']'

theorem nextItem_first {cs : List Char} (h : Opens cs) (more : List Char) :
    nextItem true (cs ++ more) = .ok (true, cs ++ more) := by
  obtain ⟨c, rest, rfl, hblank, hclose⟩ := h
  rw [List.cons_append]
  simp [nextItem, skipBlanks_cons hblank, hclose]

theorem nextItem_comma {cs : List Char} (h : Opens cs) (more : List Char) :
    nextItem false (',' :: (cs ++ more)) = .ok (true, cs ++ more) := by
  obtain ⟨c, rest, rfl, hblank, hclose⟩ := h
  have hcomma : isBlank ',' = false := by decide
  rw [List.cons_append]
  simp [nextItem, skipBlanks_cons hcomma, skipBlanks_cons hblank, hclose]

theorem nextItem_close (first : Bool) (rest : List Char) :
    nextItem first (']' :: rest) = .ok (false, rest) := by
  have hclose : isBlank ']' = false := by decide
  simp [nextItem, skipBlanks_cons hclose]

theorem stops_bracket (rest : List Char) : Stops (']' :: rest) := Stops.cons rest (by decide)

theorem stops_brace (rest : List Char) : Stops ('\x7d' :: rest) := Stops.cons rest (by decide)

section

variable {α : Type} {text : α → List Char}

/-- Texts, each behind its comma. -/
def later (text : α → List Char) (all : List α) : List Char := all.flatMap fun a => ',' :: text a

theorem later_cons (a : α) (all : List α) (more : List Char) :
    later text (a :: all) ++ more = ',' :: (text a ++ (later text all ++ more)) := by
  simp [later, List.append_assoc]

theorem stops_later (all : List α) {close : List Char} (hclose : Stops close) :
    Stops (later text all ++ close) := by
  cases all with
  | nil => exact hclose
  | cons a all => exact Stops.cons _ (by decide)

theorem length_le_later (all : List α) : all.length ≤ (later text all).length := by
  induction all with
  | nil => exact Nat.le_refl 0
  | cons a all ih =>
    simp only [later, List.flatMap_cons, List.length_append, List.length_cons] at ih ⊢
    omega

end

theorem writeItems_cons (v : Value) (items : List Value) :
    writeItems (v :: items) = v.write ++ later Value.write items := by
  induction items generalizing v with
  | nil => simp [writeItems, later]
  | cons w items ih => simp [writeItems, later, ih]

/-- The reader `f` reads `v` back wherever it is written. -/
def ReadsBack (f : Reader Value) (v : Value) : Prop :=
  Opens v.write ∧ ∀ rest, Stops rest → f (v.write ++ rest) = .ok (v, rest)

theorem item_write {f : Reader Value} {v : Value} (h : ReadsBack f v) (read : List Value)
    {rest : List Char} (hrest : Stops rest) :
    item f read (v.write ++ rest) = .ok (v :: read, rest) := by
  simp [item, h.2 rest hrest, Except.map]

/-- The items behind the first one read back, if there are steps enough. -/
theorem foldItems_later {f : Reader Value} {items : List Value}
    (h : ∀ v ∈ items, ReadsBack f v) {fuel : Nat} (hfuel : items.length < fuel) (read : List Value)
    (rest : List Char) :
    foldItems (item f) fuel false read (later Value.write items ++ ']' :: rest) =
      .ok (items.reverse ++ read, rest) := by
  induction items generalizing fuel read with
  | nil =>
    obtain ⟨fuel, rfl⟩ := Nat.exists_eq_add_of_le' hfuel
    simp [foldItems, later, nextItem_close]
  | cons v items ih =>
    obtain ⟨fuel, rfl⟩ := Nat.exists_eq_add_of_le' (Nat.le_trans (Nat.le_add_left 1 _) hfuel)
    have hfirst := h v List.mem_cons_self
    rw [later_cons, foldItems, nextItem_comma hfirst.1]
    simp only [item_write hfirst read (stops_later items (stops_bracket rest))]
    rw [ih (fun w hw => h w (List.mem_cons_of_mem v hw)) (by simp at hfuel; omega)]
    simp

/-- The items of an array read back. -/
theorem items_writeItems {f : Reader Value} {all : List Value} (h : ∀ v ∈ all, ReadsBack f v)
    (rest : List Char) :
    items (item f) [] (writeItems all ++ ']' :: rest) = .ok (all.reverse, rest) := by
  unfold items
  cases all with
  | nil => simp [writeItems, foldItems, nextItem_close]
  | cons v all =>
    have hfirst := h v List.mem_cons_self
    have hlength := @length_le_later _ Value.write all
    rw [writeItems_cons, List.append_assoc, foldItems, nextItem_first hfirst.1]
    simp only [item_write hfirst [] (stops_later all (stops_bracket rest))]
    rw [foldItems_later (fun w hw => h w (List.mem_cons_of_mem v hw))
      (by simp only [List.length_append, List.length_cons]; omega)]
    simp

/-! ### Objects -/

/-- A member of an object with the text of its value. -/
abbrev Member := String × List Char

/-- A member of a value that is an object. -/
def memberOf (m : String × Value) : Member := (m.1, m.2.write)

/-- The text of a member. -/
def memberText (m : Member) : List Char := writeString m.1 ++ ':' :: m.2

/-- The members of an object, with commas between them. -/
def memberTexts : List Member → List Char
  | [] => []
  | m :: rest => memberText m ++ later memberText rest

theorem writeMembers_eq (all : List (String × Value)) :
    writeMembers all = memberTexts (all.map memberOf) := by
  induction all with
  | nil => rfl
  | cons m all ih =>
    cases all with
    | nil => simp [writeMembers, memberTexts, memberText, memberOf, later]
    | cons n all =>
      rw [writeMembers, ih]
      · simp [memberTexts, memberText, memberOf, later]
      · exact nofun

/-- An object is written as its members in brackets. -/
theorem write_object_append (all : List (String × Value)) (rest : List Char) :
    (Value.object all).write ++ rest =
      '\x7b' :: (memberTexts (all.map memberOf) ++ '\x7d' :: rest) := by
  simp [Value.write, writeMembers_eq, List.append_assoc]

/-- The key of a member reads back. -/
theorem string_memberText (m : Member) (more : List Char) :
    ∃ tail, memberText m ++ more = '"' :: tail ∧
      string tail = .ok (m.1, ':' :: (m.2 ++ more)) := by
  obtain ⟨tail, htail, hread⟩ := string_writeString m.1 (':' :: (m.2 ++ more))
  refine ⟨tail, ?_, hread⟩
  rw [← htail, memberText, List.append_assoc, List.cons_append]

theorem nextKey_first (m : Member) (more : List Char) :
    nextKey true (memberText m ++ more) = .ok (some m.1, ':' :: (m.2 ++ more)) := by
  obtain ⟨tail, htext, hread⟩ := string_memberText m more
  have hquote : isBlank '"' = false := by decide
  simp [nextKey, htext, skipBlanks_cons hquote, hread, Except.map]

theorem nextKey_comma (m : Member) (more : List Char) :
    nextKey false (',' :: (memberText m ++ more)) = .ok (some m.1, ':' :: (m.2 ++ more)) := by
  obtain ⟨tail, htext, hread⟩ := string_memberText m more
  have hcomma : isBlank ',' = false := by decide
  have hquote : isBlank '"' = false := by decide
  simp [nextKey, htext, skipBlanks_cons hcomma, skipBlanks_cons hquote, hread, Except.map]

theorem nextKey_close (first : Bool) (rest : List Char) :
    nextKey first ('\x7d' :: rest) = .ok (none, rest) := by
  have hclose : isBlank '\x7d' = false := by decide
  simp [nextKey, skipBlanks_cons hclose]

theorem colon_cons (rest : List Char) : colon (':' :: rest) = .ok ((), rest) := by
  have hcolon : isBlank ':' = false := by decide
  simp [colon, skipBlanks_cons hcolon]

section

variable {σ : Type} {step : σ → String → Reader σ}

/-- The step leads from one state to another over members, wherever they are written. -/
inductive Leads (step : σ → String → Reader σ) : σ → List Member → σ → Prop where
  /-- No members leave the state as it is. -/
  | nil (s : σ) : Leads step s [] s
  /-- The first member leads to the state from which the others are read. -/
  | cons {s s₁ s' : σ} {m : Member} {all : List Member}
    (first : ∀ rest, Stops rest → step s m.1 (':' :: (m.2 ++ rest)) = .ok (s₁, rest))
    (others : Leads step s₁ all s') : Leads step s (m :: all) s'

/-- The members behind the first one are read, if there are steps enough. -/
theorem foldMembers_later {s s' : σ} {all : List Member} (h : Leads step s all s')
    {fuel : Nat} (hfuel : all.length < fuel) (rest : List Char) :
    foldMembers step fuel false s (later memberText all ++ '\x7d' :: rest) = .ok (s', rest) := by
  induction h generalizing fuel with
  | nil s =>
    obtain ⟨fuel, rfl⟩ := Nat.exists_eq_add_of_le' hfuel
    simp [foldMembers, later, nextKey_close]
  | @cons s s₁ s' m all first others ih =>
    obtain ⟨fuel, rfl⟩ := Nat.exists_eq_add_of_le' (Nat.le_trans (Nat.le_add_left 1 _) hfuel)
    rw [later_cons, foldMembers, nextKey_comma]
    simp only [first _ (stops_later all (stops_brace rest))]
    exact ih (by simp at hfuel; omega)

/-- **The members of an object are read, up to the closing bracket.** -/
theorem members_memberTexts {s s' : σ} {all : List Member} (h : Leads step s all s')
    (rest : List Char) :
    members step s (memberTexts all ++ '\x7d' :: rest) = .ok (s', rest) := by
  unfold members
  cases h with
  | nil => simp [memberTexts, foldMembers, nextKey_close]
  | @cons _ s₁ _ m all first others =>
    have hlength := @length_le_later _ memberText all
    rw [memberTexts, List.append_assoc, foldMembers, nextKey_first]
    simp only [first _ (stops_later all (stops_brace rest))]
    exact foldMembers_later others
      (by simp only [memberText, List.length_append, List.length_cons]; omega) rest

end

theorem member_write {f : Reader Value} {v : Value} (h : ReadsBack f v)
    (read : List (String × Value)) (key : String) {rest : List Char} (hrest : Stops rest) :
    member f read key (':' :: (v.write ++ rest)) = .ok ((key, v) :: read, rest) := by
  simp [member, colon_cons, h.2 rest hrest, Except.map]

/-- The members of an object are read one before the other. -/
theorem leads_member {f : Reader Value} {all : List (String × Value)}
    (h : ∀ m ∈ all, ReadsBack f m.2) (read : List (String × Value)) :
    Leads (member f) read (all.map memberOf) (all.reverse ++ read) := by
  induction all generalizing read with
  | nil => exact .nil read
  | cons m all ih =>
    rw [List.reverse_cons, List.append_assoc]
    exact .cons (fun rest hrest => member_write (h m List.mem_cons_self) read m.1 hrest)
      (ih (fun n hn => h n (List.mem_cons_of_mem m hn)) _)

/-! ### Values -/

/-- A value that holds no double and in which brackets are nested at most `depth` deep. -/
def Value.Plain : Nat → Value → Prop
  | depth + 1, .array all => ∀ v ∈ all, Value.Plain depth v
  | depth + 1, .object all => ∀ m ∈ all, Value.Plain depth m.2
  | _, v => v.IsScalar

theorem plain_of_isScalar {v : Value} (h : v.IsScalar) (depth : Nat) : v.Plain depth := by
  match depth, v, h with
  | 0, _, h => exact h
  | _ + 1, .null, h | _ + 1, .bool _, h | _ + 1, .number _, h | _ + 1, .string _, h => exact h

theorem opens_write_of_isScalar {v : Value} (h : v.IsScalar) : Opens v.write := by
  obtain ⟨c, rest, htext, hblank, hbracket, -⟩ := scalar_head (scalar_write h Stops.nil)
  rw [List.append_nil] at htext
  refine ⟨c, rest, htext, hblank, ?_⟩
  rintro rfl
  have hread := scalar_write h Stops.nil
  rw [List.append_nil, htext] at hread
  exact nomatch hread

theorem readsBack_of_isScalar {v : Value} (h : v.IsScalar) (depth : Nat) :
    ReadsBack (value depth) v :=
  ⟨opens_write_of_isScalar h, fun _ hrest => value_of_scalar (scalar_write h hrest) depth⟩

theorem readsBack_array {depth : Nat} {all : List Value}
    (h : ∀ v ∈ all, ReadsBack (value depth) v) : ReadsBack (value (depth + 1)) (.array all) := by
  refine ⟨⟨'[', _, rfl, by decide, by decide⟩, fun rest _ => ?_⟩
  have hopen : isBlank '[' = false := by decide
  have htext : (Value.array all).write ++ rest = '[' :: (writeItems all ++ ']' :: rest) := by
    simp [Value.write, List.append_assoc]
  rw [htext, value_succ]
  simp only [skipBlanks_cons hopen, if_true, items_writeItems h rest, Except.map,
    List.reverse_reverse]

theorem readsBack_object {depth : Nat} {all : List (String × Value)}
    (h : ∀ m ∈ all, ReadsBack (value depth) m.2) : ReadsBack (value (depth + 1)) (.object all) := by
  refine ⟨⟨'\x7b', _, rfl, by decide, by decide⟩, fun rest _ => ?_⟩
  have hopen : isBlank '\x7b' = false := by decide
  have hkind : ('\x7b' = '[') = False := by decide
  have hread := members_memberTexts (leads_member h []) rest
  rw [write_object_append, value_succ]
  simp only [skipBlanks_cons hopen, hkind, if_true, if_false, hread, Except.map, List.append_nil,
    List.reverse_reverse]

/-- **A value that is written reads back.** -/
theorem value_write {depth : Nat} {v : Value} (h : v.Plain depth) :
    ReadsBack (value depth) v := by
  induction depth generalizing v with
  | zero => exact readsBack_of_isScalar h 0
  | succ depth ih =>
    match v, h with
    | .array all, h => exact readsBack_array fun v hv => ih (h v hv)
    | .object all, h => exact readsBack_object fun m hm => ih (h m hm)
    | .null, h | .bool _, h | .number _, h | .string _, h => exact readsBack_of_isScalar h _

theorem stops_of_skipBlanks {cs : List Char} (h : skipBlanks cs = []) : Stops cs := by
  rintro c hc
  cases cs with
  | nil => exact nomatch hc
  | cons d cs =>
    obtain rfl := Option.some.inj hc
    rw [skipBlanks] at h
    split_ifs at h with hblank
    simp only [isBlank, Bool.or_eq_true, decide_eq_true_eq] at hblank
    rcases hblank with ((rfl | rfl) | rfl) | rfl <;> decide

/-- The text of a value is read as the value, with blanks behind it, too. -/
theorem read_text_append {v : Value} (h : v.Plain depthLimit) {blanks : String}
    (hblanks : skipBlanks blanks.toList = []) : Value.read (v.text ++ blanks) = .ok v := by
  have hread := (value_write h).2 blanks.toList (stops_of_skipBlanks hblanks)
  simp [Value.read, readText, Value.text, hread, hblanks]

theorem read_text {v : Value} (h : v.Plain depthLimit) : Value.read v.text = .ok v := by
  have hread := @read_text_append v h "" rfl
  rwa [String.append_empty] at hread

end WidgetForge.Json
