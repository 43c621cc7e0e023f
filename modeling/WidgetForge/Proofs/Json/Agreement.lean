import WidgetForge.Proofs.Json.Consumption
import WidgetForge.Proofs.Json.Records

/-!
# Two ways to decode a record

A record is decoded straight from a text, member by member as they are read, or a value is read
first and then decoded. Both ways take the same texts for the same records, if the members are
scalars and others are refused: what is read as a member is read as a value, whatever it is taken
for. They differ in one thing. A key that is repeated is an error where the text is decoded, but a
value that has been read is settled and has its last value only.
-/

namespace WidgetForge.Json

/-! ### Members -/

section

variable {depth : Nat} {cs rest : List Char} {v : Value}

theorem consumes_readScalar {α : Type} (expected : String) (take : Value → Except Mismatch α) :
    Consumes (readScalar expected take) := by
  intro cs a left h
  obtain ⟨c, tail, v, hcs, -, -, hscalar, -⟩ := readScalar_eq_ok.mp h
  exact Nat.le_trans (consumes_scalar _ _ _ hscalar) (hcs ▸ length_skipBlanks_le cs)

/-- A reader of scalars takes what is read as a value, if what it takes has no brackets. -/
theorem readScalar_iff {α : Type} {expected : String} {take : Value → Except Mismatch α} {a : α}
    (harray : ∀ items a, take (.array items) ≠ .ok a)
    (hobject : ∀ members a, take (.object members) ≠ .ok a) :
    readScalar expected take cs = .ok (a, rest) ↔
      ∃ v, value depth cs = .ok (v, rest) ∧ take v = .ok a := by
  rw [readScalar_eq_ok]
  constructor
  · rintro ⟨c, tail, v, hcs, hbracket, hbrace, hscalar, htake⟩
    refine ⟨v, value_eq_ok.mpr ⟨c, tail, hcs, ?_⟩, htake⟩
    rwa [if_neg hbracket, if_neg hbrace]
  · rintro ⟨v, hv, htake⟩
    obtain ⟨c, tail, hcs, hv⟩ := value_eq_ok.mp hv
    split_ifs at hv with hbracket hbrace
    · obtain ⟨-, items, -, -, rfl⟩ := hv
      exact absurd htake (harray _ a)
    · obtain ⟨-, members, -, -, rfl⟩ := hv
      exact absurd htake (hobject _ a)
    · exact ⟨c, tail, v, hcs, hbracket, hbrace, hv, htake⟩

/-- **What is read for something of a kind is what is read as a value and taken for it.** -/
theorem read_iff {shape : Shape} (h : shape.IsScalar) {a : shape.Carrier} :
    shape.read depth cs = .ok (a, rest) ↔
      ∃ v, value depth cs = .ok (v, rest) ∧ shape.ofValue v = .ok a := by
  match shape, h with
  | .text, _ | .path, _ | .int64, _ | .flag, _ => exact readScalar_iff nofun nofun

theorem consumes_read {shape : Shape} (h : shape.IsScalar) (depth : Nat) :
    Consumes (shape.read depth) := by
  match shape, h with
  | .text, _ | .path, _ | .int64, _ | .flag, _ => exact consumes_readScalar _ _

end

namespace Draft

variable {ε ε' σ σ' : Type} {again : ε} {again' : ε'} {name : String} {left : σ} {left' : σ'}
  {decode : (shape : Shape) → Except ε (shape.Carrier × σ)}
  {decode' : (shape : Shape) → Except ε' (shape.Carrier × σ')}

/-- A member that goes into its place has been decoded. -/
theorem decoded_of_give {fs : List Field} {d d' : Draft fs}
    (h : give again decode name fs d = some (.ok (d', left))) :
    ∃ f ∈ fs, ∃ a, decode f.shape = .ok (a, left) := by
  induction fs with
  | nil => exact nomatch h
  | cons f fs ih =>
    by_cases hname : f.name = name
    · obtain ⟨-, -, a, -, hdecode⟩ := (give_first hname).mp h
      exact ⟨f, List.mem_cons_self, a, hdecode⟩
    · obtain ⟨g, hg, a, hdecode⟩ := ih ((give_later hname).mp h).2
      exact ⟨g, List.mem_cons_of_mem f hg, a, hdecode⟩

/-- Only what is decoded for the kind of its place matters for a member. -/
theorem give_iff_give {fs : List Field} {d d' : Draft fs}
    (h : ∀ f ∈ fs, ∀ a, decode f.shape = .ok (a, left) ↔ decode' f.shape = .ok (a, left')) :
    give again decode name fs d = some (.ok (d', left)) ↔
      give again' decode' name fs d = some (.ok (d', left')) := by
  induction fs with
  | nil => exact ⟨nofun, nofun⟩
  | cons f fs ih =>
    obtain ⟨slot, d⟩ := d
    obtain ⟨slot', d'⟩ := d'
    by_cases hname : f.name = name
    · simp only [give_first hname, h f List.mem_cons_self]
    · simp only [give_later hname, ih fun g hg => h g (List.mem_cons_of_mem f hg)]

end Draft

/-! ### Objects -/

theorem toOption_eq_some {ε α : Type} {x : Except ε α} {a : α} :
    x.toOption = some a ↔ x = .ok a := by
  cases x <;> simp [Except.toOption]

section

variable {f : Reader Value} {cs rest : List Char}

/-- Members that have been read stay. -/
theorem suffix_of_foldMembers {fuel : Nat} {first : Bool} {read all : List (String × Value)}
    (h : foldMembers (member f) fuel first read cs = .ok (all, rest)) : read <:+ all := by
  refine foldMembers_keeps (I := fun all => read <:+ all) ?_ List.suffix_rfl h
  intro read₁ key cs read₂ left hsuffix hmember
  obtain ⟨-, v, -, -, rfl⟩ := member_iff.mp hmember
  exact hsuffix.trans (List.suffix_cons _ _)

/-- **What takes members as they are read takes them as values**, if each of them is read as a value
and then taken. -/
theorem foldMembers_iff {σ : Type} {step : σ → String → Reader σ}
    {take : σ → String × Value → Option σ}
    (hstep : ∀ s s' key cs left, step s key cs = .ok (s', left) ↔
      ∃ tail v, colon cs = .ok ((), tail) ∧ f tail = .ok (v, left) ∧ take s (key, v) = some s')
    {fuel : Nat} {first : Bool} {s s' : σ} {read : List (String × Value)} :
    foldMembers step fuel first s cs = .ok (s', rest) ↔
      ∃ all : List (String × Value),
        foldMembers (member f) fuel first read cs = .ok (all.reverse ++ read, rest) ∧
          all.foldlM take s = some s' := by
  induction fuel generalizing first s read cs with
  | zero => simp [foldMembers]
  | succ fuel ih =>
    constructor
    · intro h
      rcases foldMembers_succ.mp h with ⟨hnext, rfl⟩ | ⟨key, tail, s₁, tail₁, hnext, hmember, h⟩
      · exact ⟨[], foldMembers_succ.mpr (.inl ⟨hnext, rfl⟩), rfl⟩
      · obtain ⟨tail₂, v, hcolon, hv, htake⟩ := (hstep _ _ _ _ _).mp hmember
        obtain ⟨all, hfold, hall⟩ := (@ih _ _ _ ((key, v) :: read)).mp h
        refine ⟨(key, v) :: all, foldMembers_succ.mpr (.inr ⟨key, tail, (key, v) :: read, tail₁,
          hnext, member_iff.mpr ⟨tail₂, v, hcolon, hv, rfl⟩, ?_⟩), ?_⟩
        · rwa [List.reverse_cons, List.append_assoc]
        · rw [List.foldlM_cons, htake]
          exact hall
    · rintro ⟨all, h, hall⟩
      rcases foldMembers_succ.mp h with ⟨hnext, heq⟩ | ⟨key, tail, _, tail₁, hnext, hmember, h⟩
      · obtain rfl : all = [] := by simpa using heq
        obtain rfl := Option.some.inj hall
        exact foldMembers_succ.mpr (.inl ⟨hnext, rfl⟩)
      · obtain ⟨tail₂, v, hcolon, hv, rfl⟩ := member_iff.mp hmember
        -- the member that has been read is the first of them all
        obtain ⟨more, hmore⟩ := suffix_of_foldMembers h
        obtain rfl : all = (key, v) :: more.reverse := by
          rw [List.append_cons, List.append_cancel_right_eq] at hmore
          rw [← List.reverse_reverse all, ← hmore, List.reverse_append, List.reverse_singleton]
          rfl
        rw [List.foldlM_cons] at hall
        obtain ⟨s₁, htake, hall⟩ := Option.bind_eq_some_iff.mp hall
        have hfirst := (hstep _ _ _ _ _).mpr ⟨tail₂, v, hcolon, hv, htake⟩
        rw [List.reverse_cons, List.append_assoc] at h
        exact foldMembers_succ.mpr
          (.inr ⟨key, tail, s₁, tail₁, hnext, hfirst, ih.mpr ⟨more.reverse, h, hall⟩⟩)

end

namespace Record

variable {r : Record} {depth : Nat} {cs rest : List Char}

theorem ofMembers_append {d d' : Draft r.fields} {all more : List (String × Value)} :
    r.ofMembers d (all ++ more) = .ok d' ↔
      ∃ d₁, r.ofMembers d all = .ok d₁ ∧ r.ofMembers d₁ more = .ok d' := by
  induction all generalizing d with
  | nil => simp [ofMembers]
  | cons m all ih =>
    simp only [List.cons_append, ofMembers]
    split
    · exact ih
    · simp
    · split_ifs
      · simp
      · exact ih

/-- What decodes the value of a member. -/
theorem ofMembers_single (hclosed : r.closed = true) {d d' : Draft r.fields} {key : String}
    {v : Value} :
    r.ofMembers d [(key, v)] = .ok d' ↔
      Draft.give (Mismatch.duplicateField key) (fun shape => (shape.ofValue v).map (·, ())) key
        r.fields d = some (.ok (d', ())) := by
  rw [ofMembers]
  split
  · next hgive => simp [hgive, ofMembers]
  · next hgive => simp [hgive]
  · next hgive => simp [hgive, hclosed]

/-- What reads the value of a member. -/
theorem readMember_eq_ok (hclosed : r.closed = true) {d d' : Draft r.fields} {key : String} :
    r.readMember depth d key cs = .ok (d', rest) ↔
      Draft.give (misfit (.duplicateField key) '\x7d' cs) (fun shape =>
        match colon cs with
        | .error f => .error f
        | .ok (_, rest) => shape.read depth rest) key r.fields d = some (.ok (d', rest)) := by
  unfold readMember
  split
  · next hgive =>
    exact ⟨fun h => hgive.trans (congrArg some h), fun h => Option.some.inj (hgive.symm.trans h)⟩
  · next hgive =>
    rw [if_pos hclosed]
    exact ⟨nofun, fun h => nomatch hgive.symm.trans h⟩

/-- A member that is read goes where it goes as a value. -/
theorem readMember_iff (hflat : r.Flat) (hclosed : r.closed = true) {d d' : Draft r.fields}
    {key : String} :
    r.readMember depth d key cs = .ok (d', rest) ↔
      ∃ tail v, colon cs = .ok ((), tail) ∧ value depth tail = .ok (v, rest) ∧
        r.ofMembers d [(key, v)] = .ok d' := by
  rw [readMember_eq_ok hclosed]
  simp only [ofMembers_single hclosed]
  cases hcolon : colon cs with
  | error e =>
    constructor
    · intro h
      obtain ⟨f, -, a, hdecode⟩ := Draft.decoded_of_give h
      exact nomatch hdecode
    · rintro ⟨_, _, hcolon', -⟩
      exact nomatch hcolon'
  | ok result =>
    obtain ⟨⟨⟩, tail⟩ := result
    have hread : ∀ f ∈ r.fields, ∀ a, f.shape.read depth tail = .ok (a, rest) ↔
        ∃ v, value depth tail = .ok (v, rest) ∧ f.shape.ofValue v = .ok a :=
      fun f hf a => read_iff (hflat.scalar f hf)
    -- all shapes look at the same value, so it is the one that has been decoded
    have hsame {v : Value} (hv : value depth tail = .ok (v, rest)) : ∀ f ∈ r.fields, ∀ a,
        f.shape.read depth tail = .ok (a, rest) ↔
          (f.shape.ofValue v).map (·, ()) = .ok (a, ()) := by
      intro f hf a
      rw [hread f hf a, hv]
      cases htake : f.shape.ofValue v with
      | error m => simp [htake, Except.map]
      | ok b => simp [htake, Except.map]
    constructor
    · intro h
      obtain ⟨f, hf, a, hdecode⟩ := Draft.decoded_of_give h
      obtain ⟨v, hv, -⟩ := (hread f hf a).mp hdecode
      exact ⟨tail, v, rfl, hv, (Draft.give_iff_give (hsame hv)).mp h⟩
    · rintro ⟨_, v, ⟨⟩, hv, h⟩
      exact (Draft.give_iff_give (hsame hv)).mpr h

/-- Members are decoded one after the other. -/
theorem foldlM_ofMembers {d d' : Draft r.fields} {all : List (String × Value)} :
    all.foldlM (fun d m => (r.ofMembers d [m]).toOption) d = some d' ↔
      r.ofMembers d all = .ok d' := by
  induction all generalizing d with
  | nil => simp [ofMembers]
  | cons m all ih =>
    have hsplit : r.ofMembers d (m :: all) = .ok d' ↔
        ∃ d₁, r.ofMembers d [m] = .ok d₁ ∧ r.ofMembers d₁ all = .ok d' :=
      @ofMembers_append r d d' [m] all
    rw [List.foldlM_cons, hsplit]
    refine Option.bind_eq_some_iff.trans (exists_congr fun d₁ => ?_)
    rw [ih, toOption_eq_some]

end Record

/-! ### Arrays -/

section

variable {f : Reader Value} {cs rest : List Char}

/-- Items that have been read stay. -/
theorem suffix_of_foldItems {fuel : Nat} {first : Bool} {read all : List Value}
    (h : foldItems (item f) fuel first read cs = .ok (all, rest)) : read <:+ all := by
  refine foldItems_keeps (I := fun all => read <:+ all) ?_ List.suffix_rfl h
  intro read₁ cs read₂ left hsuffix hitem
  obtain ⟨v, -, rfl⟩ := item_iff.mp hitem
  exact hsuffix.trans (List.suffix_cons _ _)

/-- What is read for an array, one item at a time. -/
theorem item_of_foldItems {fuel : Nat} {first : Bool} {read all : List Value}
    (h : foldItems (item f) fuel first read cs = .ok (all.reverse ++ read, rest)) :
    (all = [] ∧ nextItem first cs = .ok (false, rest)) ∨
      ∃ v more tail tail₁ n, all = v :: more ∧ nextItem first cs = .ok (true, tail) ∧
        f tail = .ok (v, tail₁) ∧
        foldItems (item f) n false (v :: read) tail₁ = .ok (more.reverse ++ v :: read, rest) := by
  cases fuel with
  | zero => exact nomatch h
  | succ n =>
    rcases foldItems_succ.mp h with ⟨hnext, hall⟩ | ⟨tail, read₁, tail₁, hnext, hitem, h⟩
    · exact .inl ⟨by simpa using hall, hnext⟩
    · obtain ⟨v, hv, rfl⟩ := item_iff.mp hitem
      obtain ⟨more, hmore⟩ := suffix_of_foldItems h
      have hall : all = v :: more.reverse := by
        rw [List.append_cons, List.append_cancel_right_eq] at hmore
        rw [← List.reverse_reverse all, ← hmore, List.reverse_append, List.reverse_singleton]
        rfl
      refine .inr ⟨v, more.reverse, tail, tail₁, n, hall, hnext, hv, ?_⟩
      rwa [← hmore, ← List.reverse_reverse more] at h

theorem nextItem_eq_false {first : Bool} :
    nextItem first cs = .ok (false, rest) ↔ skipBlanks cs = ']' :: rest := by
  unfold nextItem
  cases hcs : skipBlanks cs with
  | nil => simp
  | cons c tail =>
    by_cases hclose : c = ']'
    · simp [hclose]
    · simp only [hclose, if_false, List.cons.injEq, false_and, iff_false]
      split_ifs
      · simp
      · split
        · simp
        · split_ifs <;> simp
      · simp

theorem closeArray_eq_ok {u : Unit} :
    Record.closeArray cs = .ok (u, rest) ↔ skipBlanks cs = ']' :: rest := by
  unfold Record.closeArray
  cases hcs : skipBlanks cs with
  | nil => simp
  | cons c tail =>
    by_cases hclose : c = ']'
    · simp [hclose]
    · simp only [hclose, if_false, List.cons.injEq, false_and, iff_false]
      split_ifs
      · split <;> simp
      · simp

/-- Another item or the closing bracket takes a step. -/
theorem steps_of_nextItem {first another : Bool} {fuel : Nat}
    (h : nextItem first cs = .ok (another, rest))
    (hfuel : cs.length + (if first then 1 else 0) ≤ fuel) :
    ∃ n, fuel = n + 1 ∧ rest.length ≤ n := by
  have hlength := length_of_nextItem h
  refine ⟨fuel - 1, ?_⟩
  cases first <;> simp at hfuel hlength <;> omega

end

namespace Record

variable {depth : Nat} {cs rest : List Char} {expected : String} {index fuel : Nat}

theorem readItems_cons {f : Field} {fs : List Field} {row : Row (f :: fs)} :
    readItems expected depth index (f :: fs) cs = .ok (row, rest) ↔
      (nextItem (index == 0) cs = .ok (false, rest) ∧
        Row.absent expected index (f :: fs) = .ok row) ∨
      ∃ tail tail₁, nextItem (index == 0) cs = .ok (true, tail) ∧
        f.shape.read depth tail = .ok (row.1, tail₁) ∧
        readItems expected depth (index + 1) fs tail₁ = .ok (row.2, rest) := by
  rw [readItems]
  cases hnext : nextItem (index == 0) cs with
  | error e => simp
  | ok result =>
    obtain ⟨another, tail⟩ := result
    cases another with
    | false =>
      cases habsent : Row.absent expected index (f :: fs) with
      | error m => simp
      | ok row' => simp [and_comm]
    | true =>
      obtain ⟨a, row⟩ := row
      cases hread : f.shape.read depth tail with
      | error e => simp [hread]
      | ok result =>
        obtain ⟨b, tail₁⟩ := result
        simp only [hread]
        refine (map_eq_ok (g := fun row => (b, row))).trans ?_
        constructor
        · rintro ⟨row', h, ⟨⟩⟩
          exact .inr ⟨tail, tail₁, rfl, hread, h⟩
        · rintro (⟨h, -⟩ | ⟨_, _, ⟨⟩, hread', h⟩)
          · exact nomatch h
          · obtain ⟨⟩ := hread.symm.trans hread'
            exact ⟨row, h, rfl⟩

/-- Items that are read for a row are read as values, if there are steps enough. -/
theorem foldItems_of_readItems {fs : List Field} (hscalar : ∀ f ∈ fs, f.shape.IsScalar)
    {row : Row fs} (h : readItems expected depth index fs cs = .ok (row, rest))
    (hfuel : cs.length + (if index == 0 then 1 else 0) ≤ fuel) (read : List Value) :
    ∃ all, foldItems (item (value depth)) fuel (index == 0) read cs =
        .ok (all.reverse ++ read, rest) ∧ Row.ofItems expected index fs all = .ok (row, []) := by
  induction fs generalizing index fuel cs read with
  | nil =>
    have hnext : nextItem (index == 0) cs = .ok (false, rest) :=
      nextItem_eq_false.mpr (closeArray_eq_ok.mp h)
    obtain ⟨fuel, rfl, -⟩ := steps_of_nextItem hnext hfuel
    exact ⟨[], foldItems_succ.mpr (.inl ⟨hnext, rfl⟩), rfl⟩
  | cons f fs ih =>
    rcases readItems_cons.mp h with ⟨hnext, habsent⟩ | ⟨tail, tail₁, hnext, hread, h⟩
    · obtain ⟨fuel, rfl, -⟩ := steps_of_nextItem hnext hfuel
      refine ⟨[], foldItems_succ.mpr (.inl ⟨hnext, rfl⟩), ?_⟩
      rw [Row.ofItems, habsent]
      rfl
    · obtain ⟨fuel, rfl, hlength⟩ := steps_of_nextItem hnext hfuel
      have hshape := hscalar f List.mem_cons_self
      obtain ⟨v, hv, htake⟩ := (read_iff hshape).mp hread
      have hconsumes := consumes_read hshape depth _ _ _ hread
      obtain ⟨all, hfold, hrow⟩ := ih (fun g hg => hscalar g (List.mem_cons_of_mem f hg)) h
        (Nat.le_trans hconsumes hlength) (v :: read)
      refine ⟨v :: all, ?_, ofItems_cons.mpr ⟨htake, hrow⟩⟩
      rw [List.reverse_cons, List.append_assoc]
      exact foldItems_succ.mpr
        (.inr ⟨tail, v :: read, tail₁, hnext, item_iff.mpr ⟨v, hv, rfl⟩, hfold⟩)

/-- Items that are read as values for a row are read for it. -/
theorem readItems_of_foldItems {fs : List Field} (hscalar : ∀ f ∈ fs, f.shape.IsScalar)
    {row : Row fs} {read all : List Value}
    (h : foldItems (item (value depth)) fuel (index == 0) read cs =
      .ok (all.reverse ++ read, rest))
    (hrow : Row.ofItems expected index fs all = .ok (row, [])) :
    readItems expected depth index fs cs = .ok (row, rest) := by
  induction fs generalizing index fuel cs read all with
  | nil =>
    rcases item_of_foldItems h with ⟨-, hnext⟩ | ⟨v, more, _, _, _, rfl, -⟩
    · exact closeArray_eq_ok.mpr (nextItem_eq_false.mp hnext)
    · simp [Row.ofItems] at hrow
  | cons f fs ih =>
    rcases item_of_foldItems h with ⟨rfl, hnext⟩ | ⟨v, more, tail, tail₁, n, rfl, hnext, hv, h⟩
    · refine readItems_cons.mpr (.inl ⟨hnext, ?_⟩)
      cases habsent : Row.absent expected index (f :: fs) with
      | error m => simp [Row.ofItems, habsent, Except.map] at hrow
      | ok row' => simpa [Row.ofItems, habsent, Except.map] using hrow
    · obtain ⟨htake, hrow⟩ := ofItems_cons.mp hrow
      have hread := (read_iff (hscalar f List.mem_cons_self)).mpr ⟨v, hv, htake⟩
      have hothers := ih (fun g hg => hscalar g (List.mem_cons_of_mem f hg)) h hrow
      exact readItems_cons.mpr (.inr ⟨tail, tail₁, hnext, hread, hothers⟩)

end Record

/-! ### Records -/

namespace Record

variable {r : Record} {depth : Nat} {cs rest : List Char}

/-- The members of an object are read for a record as they are read as values. -/
theorem members_iff (hflat : r.Flat) (hclosed : r.closed = true) {d : Draft r.fields} :
    members (r.readMember depth) (Draft.blank r.fields) cs = .ok (d, rest) ↔
      ∃ read, members (member (value depth)) [] cs = .ok (read, rest) ∧
        r.ofMembers (Draft.blank r.fields) read.reverse = .ok d := by
  have hstep (d d' : Draft r.fields) (key : String) (cs left : List Char) :
      r.readMember depth d key cs = .ok (d', left) ↔ ∃ tail v, colon cs = .ok ((), tail) ∧
        value depth tail = .ok (v, left) ∧ (r.ofMembers d [(key, v)]).toOption = some d' := by
    simp only [readMember_iff hflat hclosed, toOption_eq_some]
  have hfold := @foldMembers_iff (value depth) cs rest _ (r.readMember depth)
    (fun d m => (r.ofMembers d [m]).toOption) hstep (cs.length + 1) true (Draft.blank r.fields) d []
  simp only [foldlM_ofMembers, List.append_nil] at hfold
  refine hfold.trans ⟨?_, ?_⟩
  · rintro ⟨all, hread, hd⟩
    exact ⟨all.reverse, hread, by rwa [List.reverse_reverse]⟩
  · rintro ⟨read, hread, hd⟩
    exact ⟨read.reverse, by rwa [List.reverse_reverse], hd⟩

/-- The items of an array are read for a record as they are read as values. -/
theorem items_iff (hflat : r.Flat) {row : Row r.fields} :
    readItems r.whole depth 0 r.fields cs = .ok (row, rest) ↔
      ∃ read, items (item (value depth)) [] cs = .ok (read, rest) ∧
        Row.ofItems r.whole 0 r.fields read.reverse = .ok (row, []) := by
  constructor
  · intro h
    obtain ⟨all, hfold, hrow⟩ := foldItems_of_readItems hflat.scalar h (Nat.le_refl _) []
    rw [List.append_nil] at hfold
    exact ⟨all.reverse, hfold, by rwa [List.reverse_reverse]⟩
  · rintro ⟨read, hfold, hrow⟩
    have hread : foldItems (item (value depth)) (cs.length + 1) (0 == 0) [] cs =
        .ok (read.reverse.reverse ++ [], rest) := by
      rw [List.reverse_reverse, List.append_nil]
      exact hfold
    exact readItems_of_foldItems hflat.scalar hread hrow

theorem read_eq_ok {row : Row r.fields} :
    r.read (depth + 1) cs = .ok (row, rest) ↔ ∃ c tail, skipBlanks cs = c :: tail ∧
      if c = '\x7b' then ∃ d, members (r.readMember depth) (Draft.blank r.fields) tail =
        .ok (d, rest) ∧ d.finish r.fields = .ok row
      else c = '[' ∧ readItems r.whole depth 0 r.fields tail = .ok (row, rest) := by
  rw [read]
  cases hcs : skipBlanks cs with
  | nil => simp
  | cons c tail =>
    simp only [List.cons.injEq, and_assoc, exists_and_left, exists_eq_left']
    split_ifs with hbrace hbracket
    · cases members (r.readMember depth) (Draft.blank r.fields) tail with
      | error f => simp
      | ok result =>
        obtain ⟨d, left⟩ := result
        cases hfinish : d.finish r.fields with
        | error m => simp [hfinish]
        | ok row' => simp [hfinish, and_comm]
    · simp [hbracket]
    · simp only [hbracket, false_and, iff_false, readScalar_eq_ok]
      rintro ⟨_, _, _, _, _, _, _, h⟩
      cases h

/-- **What is read for a record is what is read as a value and decoded.** -/
theorem read_iff (hflat : r.Flat) (hclosed : r.closed = true) {row : Row r.fields} :
    r.read (depth + 1) cs = .ok (row, rest) ↔
      ∃ v, value (depth + 1) cs = .ok (v, rest) ∧ r.ofValue v = .ok row := by
  constructor
  · intro h
    obtain ⟨c, tail, hcs, h⟩ := read_eq_ok.mp h
    split_ifs at h with hbrace
    · obtain ⟨d, hmembers, hfinish⟩ := h
      obtain ⟨read, hread, hd⟩ := (members_iff hflat hclosed).mp hmembers
      refine ⟨.object read.reverse, value_eq_ok.mpr ⟨c, tail, hcs, ?_⟩, ?_⟩
      · subst hbrace
        exact ⟨depth, read, rfl, hread, rfl⟩
      · exact ofObject_eq_ok.mpr ⟨d, hd, hfinish⟩
    · obtain ⟨rfl, hitems⟩ := h
      obtain ⟨read, hread, hrow⟩ := (items_iff hflat).mp hitems
      refine ⟨.array read.reverse, value_eq_ok.mpr ⟨'[', tail, hcs, ?_⟩, ?_⟩
      · exact ⟨depth, read, rfl, hread, rfl⟩
      · exact ofArray_eq_ok.mpr hrow
  · rintro ⟨v, hv, hrow⟩
    obtain ⟨c, tail, hcs, hv⟩ := value_eq_ok.mp hv
    refine read_eq_ok.mpr ⟨c, tail, hcs, ?_⟩
    split_ifs at hv with hbracket hbrace
    · subst hbracket
      obtain ⟨n, read, ⟨⟩, hread, rfl⟩ := hv
      exact ⟨rfl, (items_iff hflat).mpr ⟨read, hread, ofArray_eq_ok.mp hrow⟩⟩
    · subst hbrace
      obtain ⟨n, read, ⟨⟩, hread, rfl⟩ := hv
      obtain ⟨d, hd, hfinish⟩ := ofObject_eq_ok.mp hrow
      exact ⟨d, (members_iff hflat hclosed).mpr ⟨read, hread, hd⟩, hfinish⟩
    · obtain ⟨harray, hobject⟩ := unbracketed_of_scalar hv
      cases v with
      | array all => exact absurd rfl (harray all)
      | object all => exact absurd rfl (hobject all)
      | null | bool _ | number _ | string _ => simp only [ofValue, reduceCtorEq] at hrow

end Record

theorem readText_eq_ok {α : Type} {reader : Reader α} {text : String} {a : α} :
    readText reader text = .ok a ↔
      ∃ rest, reader text.toList = .ok (a, rest) ∧ skipBlanks rest = [] := by
  unfold readText
  cases reader text.toList with
  | error f => simp
  | ok result =>
    obtain ⟨b, rest⟩ := result
    cases hrest : skipBlanks rest with
    | nil => simp [hrest]
    | cons c rest => simp [hrest]

/-- **A record is decoded from a text if the text has a value from which it is decoded.** -/
theorem Record.parse_iff {r : Record} (hflat : r.Flat) (hclosed : r.closed = true) {text : String}
    {row : Row r.fields} :
    r.parse text = .ok row ↔ ∃ v, Value.read text = .ok v ∧ r.ofValue v = .ok row := by
  simp only [Record.parse, Value.read, readText_eq_ok, depthLimit, Record.read_iff hflat hclosed]
  constructor
  · rintro ⟨rest, ⟨v, hv, hrow⟩, hrest⟩
    exact ⟨v, ⟨rest, hv, hrest⟩, hrow⟩
  · rintro ⟨v, ⟨rest, hv, hrest⟩, hrow⟩
    exact ⟨rest, ⟨v, hv, hrow⟩, hrest⟩

/-! ### Repeated keys -/

/-- If the value is an object, then no key stands twice in it. This does not look inside the
members. -/
def Value.KeysDistinct : Value → Prop
  | .object all => (Keyed.names all).Nodup
  | _ => True

/-- A scalar is taken from a settled value as from the value. -/
theorem ofValue_settle {shape : Shape} (h : shape.IsScalar) (v : Value) :
    shape.ofValue v.settle = shape.ofValue v := by
  match shape, h with
  | .text, _ | .path, _ | .int64, _ | .flag, _ => cases v <;> rfl

namespace Draft

/-- A member of this name has been met. -/
def Holds (name : String) : (fs : List Field) → Draft fs → Prop
  | [], _ => False
  | f :: fs, (slot, d) => if f.name = name then slot.isSome = true else Holds name fs d

/-- A member goes into a place that is empty, and the other places stay as they are. -/
theorem holds_of_give {ε σ : Type} {again : ε} {name : String} {left : σ}
    {decode : (shape : Shape) → Except ε (shape.Carrier × σ)} {fs : List Field} {d d' : Draft fs}
    (h : give again decode name fs d = some (.ok (d', left))) :
    ¬ Holds name fs d ∧ ∀ n, Holds n fs d' ↔ n = name ∨ Holds n fs d := by
  induction fs with
  | nil => exact nomatch h
  | cons f fs ih =>
    obtain ⟨slot, d⟩ := d
    obtain ⟨slot', d'⟩ := d'
    by_cases hname : f.name = name
    · obtain ⟨rfl, rfl, a, rfl, -⟩ := (give_first hname).mp h
      refine ⟨by simp [Holds, hname], fun n => ?_⟩
      by_cases hn : f.name = n
      · simp [Holds, hn, ← hname]
      · simp [Holds, hn, ← hname, Ne.symm hn]
    · obtain ⟨rfl, hlater⟩ := (give_later hname).mp h
      obtain ⟨hempty, hothers⟩ := ih hlater
      refine ⟨by simpa [Holds, hname] using hempty, fun n => ?_⟩
      by_cases hn : f.name = n
      · simp [Holds, hn, show n ≠ name from hn ▸ hname]
      · simp [Holds, hn, hothers n]

theorem give_congr {ε σ : Type} {again : ε} {name : String}
    {decode decode' : (shape : Shape) → Except ε (shape.Carrier × σ)} {fs : List Field}
    (h : ∀ f ∈ fs, decode f.shape = decode' f.shape) (d : Draft fs) :
    give again decode name fs d = give again decode' name fs d := by
  induction fs with
  | nil => rfl
  | cons f fs ih =>
    obtain ⟨slot, d⟩ := d
    simp only [give, h f List.mem_cons_self, ih fun g hg => h g (List.mem_cons_of_mem f hg)]

end Draft

namespace Record

variable {r : Record}

/-- Members that all go into a draft have names of their own. -/
theorem distinct_of_ofMembers (hclosed : r.closed = true) {d d' : Draft r.fields}
    {all : List (String × Value)} (h : r.ofMembers d all = .ok d') :
    (Keyed.names all).Nodup ∧ ∀ n ∈ Keyed.names all, ¬ d.Holds n r.fields := by
  induction all generalizing d with
  | nil => exact ⟨List.nodup_nil, nofun⟩
  | cons m all ih =>
    obtain ⟨key, v⟩ := m
    rw [← List.singleton_append, ofMembers_append] at h
    obtain ⟨d₁, hfirst, hothers⟩ := h
    obtain ⟨hempty, hholds⟩ := Draft.holds_of_give ((ofMembers_single hclosed).mp hfirst)
    obtain ⟨hnodup, hnew⟩ := ih hothers
    have hnew' : ∀ n ∈ Keyed.names all, n ≠ key ∧ ¬ d.Holds n r.fields := fun n hn =>
      not_or.mp fun hor => hnew n hn ((hholds n).mpr hor)
    refine ⟨List.nodup_cons.mpr ⟨fun hkey => (hnew' key hkey).1 rfl, hnodup⟩, fun n hn => ?_⟩
    rcases List.mem_cons.mp hn with rfl | hn
    · exact hempty
    · exact (hnew' n hn).2

theorem names_settleMembers (all : List (String × Value)) :
    Keyed.names (settleMembers all) = Keyed.names all := by
  induction all with
  | nil => rfl
  | cons m all ih => exact congrArg (m.1 :: ·) ih

theorem ofMembers_settleMembers (hflat : r.Flat) (d : Draft r.fields)
    (all : List (String × Value)) :
    r.ofMembers d (settleMembers all) = r.ofMembers d all := by
  induction all generalizing d with
  | nil => rfl
  | cons m all ih =>
    obtain ⟨key, v⟩ := m
    have hgive : Draft.give (Mismatch.duplicateField key)
          (fun shape => (shape.ofValue v.settle).map (·, ())) key r.fields d =
        Draft.give (Mismatch.duplicateField key)
          (fun shape => (shape.ofValue v).map (·, ())) key r.fields d :=
      Draft.give_congr
        (fun f hf => congrArg (Except.map (·, ())) (ofValue_settle (hflat.scalar f hf) v)) d
    simp only [settleMembers, ofMembers, hgive, ih]

theorem ofItems_settleItems {expected : String} {fs : List Field}
    (hscalar : ∀ f ∈ fs, f.shape.IsScalar) (index : Nat) (all : List Value) :
    Row.ofItems expected index fs (settleItems all) =
      (Row.ofItems expected index fs all).map fun (row, left) => (row, settleItems left) := by
  induction fs generalizing index all with
  | nil => rfl
  | cons f fs ih =>
    cases all with
    | nil =>
      rw [settleItems, Row.ofItems]
      cases Row.absent expected index (f :: fs) <;> rfl
    | cons v all =>
      have htake := ofValue_settle (hscalar f List.mem_cons_self) v
      have hothers := ih (fun g hg => hscalar g (List.mem_cons_of_mem f hg)) (index + 1) all
      simp only [settleItems, Row.ofItems, htake, hothers]
      cases f.shape.ofValue v with
      | error m => rfl
      | ok a => cases Row.ofItems expected (index + 1) fs all <;> rfl

/-- An array is decoded in the same way when its items are settled. -/
theorem ofArray_settleItems (hflat : r.Flat) {excess : String} {length length' : Nat}
    {all : List Value} {row : Row r.fields} :
    r.ofArray excess length' (settleItems all) = .ok row ↔
      r.ofArray excess length all = .ok row := by
  rw [ofArray_eq_ok, ofArray_eq_ok, ofItems_settleItems hflat.scalar]
  cases Row.ofItems r.whole 0 r.fields all with
  | error m => simp [Except.map]
  | ok result =>
    obtain ⟨row', left⟩ := result
    cases left <;> simp [Except.map, settleItems]

/-- **A record is decoded from a settled value as from the value, but for repeated keys.** -/
theorem ofValue_iff_settle (hflat : r.Flat) (hclosed : r.closed = true) {v : Value}
    {row : Row r.fields} :
    r.ofValue v = .ok row ↔ v.KeysDistinct ∧ r.ofValue v.settle = .ok row := by
  cases v with
  | null | bool b | number n | string s => simp [Value.KeysDistinct, Value.settle]
  | array all =>
    simp only [Value.KeysDistinct, true_and, Value.settle, ofValue]
    exact (ofArray_settleItems hflat).symm
  | object all =>
    have hsettled (hnodup : (Keyed.names all).Nodup) :
        r.ofObject (Keyed.ofList (settleMembers all)) = r.ofObject all := by
      rw [Keyed.ofList_of_nodup (by rwa [names_settleMembers]), ofObject,
        ofMembers_settleMembers hflat, ofObject]
    constructor
    · intro h
      obtain ⟨d, hd, -⟩ := ofObject_eq_ok.mp h
      have hnodup := (distinct_of_ofMembers hclosed hd).1
      exact ⟨hnodup, (hsettled hnodup).trans h⟩
    · rintro ⟨hnodup, h⟩
      exact (hsettled hnodup).symm.trans h

end Record

end WidgetForge.Json
