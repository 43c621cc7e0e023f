import WidgetForge.Proofs.Text.Identifier

/-!
# Names that overlap themselves

The search for a name goes on behind each occurrence that it meets, so it does not see the
occurrences that begin inside that one. For names made of identifier characters nothing is missed.
For any name, an occurrence that stands alone is missed only if the name can begin anew inside
itself, behind a character that separates (`Recurs`); and each such name is missed in some text.
-/

namespace WidgetForge.Text

/-- The name stands at this place of the text, and no identifier character touches it there. -/
structure AloneAt (name text : List Char) (place : Nat) : Prop where
  stands : name <+: text.drop place
  before : separates (text.take place).getLast? = true
  behind : separates (text.drop (place + name.length)).head? = true

instance (name text : List Char) (place : Nat) : Decidable (AloneAt name text place) :=
  decidable_of_iff (name <+: text.drop place ∧ separates (text.take place).getLast? = true ∧
      separates (text.drop (place + name.length)).head? = true)
    ⟨fun h => ⟨h.1, h.2.1, h.2.2⟩, fun h => ⟨h.stands, h.before, h.behind⟩⟩

/-- At some place of the text the name stands alone. The empty name never does. -/
def StandsAlone (source name : String) : Prop :=
  name ≠ "" ∧ ∃ place, AloneAt name.toList source.toList place

/-- The search meets the occurrences of a name that do not begin inside one which it has met. -/
def Met (name text : List Char) (place : Nat) : Prop :=
  name <+: text.drop place ∧
    ∀ earlier, earlier < place → place < earlier + name.length → ¬ Met name text earlier
termination_by place

/-- At some place where the search meets the name it stands alone. -/
def MetAlone (source name : String) : Prop :=
  name ≠ "" ∧ ∃ place, Met name.toList source.toList place ∧
    AloneAt name.toList source.toList place

/-- A name that can begin anew inside itself, behind a character that separates. -/
def Recurs (name : List Char) : Prop :=
  ∃ place < name.length, 0 < place ∧ separates (name.take place).getLast? = true ∧
    name.drop place <+: name

instance (name : List Char) : Decidable (Recurs name) := by
  unfold Recurs
  infer_instance

section

variable {name text rest : List Char} {place skip : Nat} {c : Char}

/-! ### The search -/

/-- Where a search is: `skip` characters of the occurrence that was met last are still to be passed
over. -/
structure Reached (name text : List Char) (place skip : Nat) : Prop where
  /-- No occurrence that was met reaches further. -/
  passed : ∀ earlier < place, Met name text earlier → earlier + name.length ≤ place + skip
  /-- There is an occurrence that reaches so far. -/
  inside : skip ≠ 0 →
    ∃ earlier < place, Met name text earlier ∧ earlier + name.length = place + skip

theorem reached_start : Reached name text 0 0 :=
  ⟨fun _ h => absurd h (Nat.not_lt_zero _), fun h => absurd rfl h⟩

/-- Inside an occurrence nothing is met. -/
theorem Reached.not_met (h : Reached name text place (skip + 1)) : ¬ Met name text place := by
  obtain ⟨earlier, hearlier, hmet, hend⟩ := h.inside (Nat.succ_ne_zero _)
  intro hhere
  rw [Met] at hhere
  exact hhere.2 earlier hearlier (by omega) hmet

/-- Outside of them each occurrence is met. -/
theorem Reached.met_iff (h : Reached name text place 0) :
    Met name text place ↔ name <+: text.drop place := by
  rw [Met]
  refine ⟨And.left, fun hstands => ⟨hstands, fun earlier hearlier hlt hmet => ?_⟩⟩
  have hend := h.passed earlier hearlier hmet
  omega

theorem Reached.pass (h : Reached name text place (skip + 1)) :
    Reached name text (place + 1) skip := by
  refine ⟨fun earlier hearlier hmet => ?_, fun _ => ?_⟩
  · rcases Nat.eq_or_lt_of_le (Nat.le_of_lt_succ hearlier) with rfl | hlt
    · exact absurd hmet h.not_met
    · have hend := h.passed earlier hlt hmet
      omega
  · obtain ⟨earlier, hearlier, hmet, hend⟩ := h.inside (Nat.succ_ne_zero _)
    exact ⟨earlier, by omega, hmet, by omega⟩

theorem Reached.meet (h : Reached name text place 0) (hname : 0 < name.length)
    (hstands : name <+: text.drop place) :
    Reached name text (place + 1) (name.length - 1) := by
  refine ⟨fun earlier hearlier hmet => ?_, fun _ => ?_⟩
  · rcases Nat.eq_or_lt_of_le (Nat.le_of_lt_succ hearlier) with rfl | hlt
    · omega
    · have hend := h.passed earlier hlt hmet
      omega
  · exact ⟨place, Nat.lt_succ_self _, h.met_iff.mpr hstands, by omega⟩

theorem Reached.miss (h : Reached name text place 0) (hstands : ¬ name <+: text.drop place) :
    Reached name text (place + 1) 0 := by
  refine ⟨fun earlier hearlier hmet => ?_, fun h => absurd rfl h⟩
  rcases Nat.eq_or_lt_of_le (Nat.le_of_lt_succ hearlier) with rfl | hlt
  · exact absurd (h.met_iff.mp hmet) hstands
  · have hend := h.passed earlier hlt hmet
    omega

theorem getLast?_take_succ (h : text.drop place = c :: rest) :
    (text.take (place + 1)).getLast? = some c := by
  have hat : text[place]? = some c := by
    rw [← List.head?_drop, h, List.head?_cons]
  rw [List.take_add_one, hat]
  simp

theorem drop_succ_of_drop (h : text.drop place = c :: rest) : text.drop (place + 1) = rest := by
  rw [← List.tail_drop, h, List.tail_cons]

/-- What is met from some place on is met there or further behind. -/
theorem exists_met_iff :
    (∃ p, place ≤ p ∧ Met name text p ∧ AloneAt name text p) ↔
      (Met name text place ∧ AloneAt name text place) ∨
        ∃ p, place + 1 ≤ p ∧ Met name text p ∧ AloneAt name text p := by
  constructor
  · rintro ⟨p, hp, hfound⟩
    rcases Nat.eq_or_lt_of_le hp with rfl | hlt
    · exact Or.inl hfound
    · exact Or.inr ⟨p, hlt, hfound⟩
  · rintro (hfound | ⟨p, hp, hfound⟩)
    · exact ⟨place, Nat.le_refl _, hfound⟩
    · exact ⟨p, by omega, hfound⟩

/-- The search finds the occurrences that it meets and that stand alone. -/
theorem occursAlone_iff_met (hname : name ≠ []) (hrest : text.drop place = rest)
    (h : Reached name text place skip) :
    occursAlone name skip (text.take place).getLast? rest = true ↔
      ∃ p, place ≤ p ∧ Met name text p ∧ AloneAt name text p := by
  induction rest generalizing place skip with
  | nil =>
    simp only [occursAlone, Bool.false_eq_true, false_iff, not_exists, not_and]
    intro p hp _ halone
    have hend : text.drop p = [] :=
      List.drop_eq_nil_of_le ((List.drop_eq_nil_iff.mp hrest).trans hp)
    exact hname (List.prefix_nil.mp (hend ▸ halone.stands))
  | cons c rest ih =>
    have hnext {skip : Nat} (h : Reached name text (place + 1) skip) :
        occursAlone name skip (some c) rest = true ↔
          ∃ p, place + 1 ≤ p ∧ Met name text p ∧ AloneAt name text p := by
      rw [← getLast?_take_succ hrest]
      exact ih (drop_succ_of_drop hrest) h
    rw [exists_met_iff]
    cases skip with
    | succ skip => simp only [occursAlone, hnext h.pass, h.not_met, false_and, false_or]
    | zero =>
      have hmet := h.met_iff
      have hmiss := h.miss
      have hmeet := h.meet (List.length_pos_iff.mpr hname)
      rw [hrest] at hmet hmiss hmeet
      rw [occursAlone]
      by_cases hstarts : name <+: c :: rest
      · have halone : AloneAt name text place ↔ separates (text.take place).getLast? = true ∧
            separates ((c :: rest).drop name.length).head? = true := by
          rw [← hrest, List.drop_drop]
          exact ⟨fun h => ⟨h.before, h.behind⟩, fun h => ⟨hrest ▸ hstarts, h.1, h.2⟩⟩
        rw [if_pos (List.isPrefixOf_iff_prefix.mpr hstarts)]
        simp only [Bool.or_eq_true, Bool.and_eq_true, hnext (hmeet hstarts), hmet, hstarts,
          true_and, halone]
      · rw [if_neg (mt List.isPrefixOf_iff_prefix.mp hstarts)]
        simp only [hnext (hmiss hstarts), hmet, hstarts, false_and, false_or]

end

section

variable {source name : String}

theorem toList_ne_nil (h : name ≠ "") : name.toList ≠ [] := by
  simpa [String.toList_eq_nil_iff] using h

/-- A name is used in a text if the search meets it where it stands alone. -/
theorem references_iff_metAlone : references source name = true ↔ MetAlone source name := by
  by_cases hempty : name = ""
  · simp [references, MetAlone, hempty]
  · have hsearch := occursAlone_iff_met (toList_ne_nil hempty)
      (List.drop_zero : source.toList.drop 0 = source.toList) reached_start
    simp only [List.take_zero, List.getLast?_nil, Nat.zero_le, true_and] at hsearch
    simp [references, MetAlone, hempty, hsearch]

theorem MetAlone.standsAlone (h : MetAlone source name) : StandsAlone source name := by
  obtain ⟨hname, place, -, halone⟩ := h
  exact ⟨hname, place, halone⟩

end

/-! ### What the search misses -/

section

variable {name text : List Char} {place earlier : Nat}

/-- A name that stands at two places which overlap, behind a character that separates, recurs. -/
theorem recurs_of_overlap (hearlier : name <+: text.drop earlier) (hlt : earlier < place)
    (hinside : place < earlier + name.length) (halone : AloneAt name text place) :
    Recurs name := by
  obtain ⟨behind, hbehind⟩ := hearlier
  obtain ⟨shift, rfl⟩ := Nat.exists_eq_add_of_lt hlt
  have hshift : shift + 1 ≤ name.length := by omega
  have hdrop : text.drop (earlier + shift + 1) = name.drop (shift + 1) ++ behind := by
    rw [Nat.add_assoc, ← List.drop_drop, ← hbehind, List.drop_append_of_le_length hshift]
  refine ⟨shift + 1, by omega, Nat.succ_pos _, ?_, ?_⟩
  · have hbefore := halone.before
    have hlast : (text.take (earlier + shift + 1)).getLast? =
        (name.take (shift + 1)).getLast? := by
      have hlen : (name.take (shift + 1)).length = shift + 1 := List.length_take_of_le hshift
      have hne : name.take (shift + 1) ≠ [] := List.ne_nil_of_length_eq_add_one hlen
      rw [Nat.add_assoc, List.take_add, ← hbehind, List.take_append_of_le_length hshift,
        List.getLast?_append, List.getLast?_eq_some_getLast hne, Option.some_or]
    rwa [hlast] at hbefore
  · have hstands := halone.stands
    rw [hdrop] at hstands
    exact List.prefix_of_prefix_length_le (List.prefix_append _ _) hstands (by simp)

/-- What the search does not meet is met inside an occurrence, so it is no loss unless the name
recurs. -/
theorem met_of_aloneAt (hname : ¬ Recurs name) (halone : AloneAt name text place) :
    Met name text place := by
  rw [Met]
  refine ⟨halone.stands, fun earlier hlt hinside hmet => ?_⟩
  rw [Met] at hmet
  exact hname (recurs_of_overlap hmet.1 hlt hinside halone)

theorem exists_identifier_ne (c : Char) : ∃ x, isIdentifier x = true ∧ x ≠ c := by
  by_cases h : c = 'x'
  · exact ⟨'y', by decide, by rw [h]; decide⟩
  · exact ⟨'x', by decide, Ne.symm h⟩

end

/-! ### A text in which a name is missed -/

/-- A character, and then the name up to where it begins anew, twice. -/
def decoy (x : Char) (shift : Nat) (name : List Char) : List Char :=
  x :: (name.take shift ++ name)

section

variable {name : List Char} {x : Char} {shift place : Nat}

theorem length_decoy (hlt : shift < name.length) :
    (decoy x shift name).length = shift + name.length + 1 := by
  rw [decoy, List.length_cons, List.length_append, List.length_take_of_le hlt.le]

/-- The first time the name stands behind the character. -/
theorem prefix_take_append (hagain : name.drop shift <+: name) :
    name <+: name.take shift ++ name := by
  have h := (List.prefix_append_right_inj (name.take shift)).mpr hagain
  rwa [List.take_append_drop] at h

/-- The second time the name stands alone, if it begins anew behind a character that separates. -/
theorem aloneAt_decoy (hlt : shift < name.length) (hpos : 0 < shift)
    (hseparates : separates (name.take shift).getLast? = true) :
    AloneAt name (decoy x shift name) (shift + 1) := by
  have hlen : (name.take shift).length = shift := List.length_take_of_le hlt.le
  have hdrop : (decoy x shift name).drop (shift + 1) = name := by
    rw [decoy, List.drop_succ_cons, List.drop_left' hlen]
  refine ⟨⟨[], by rw [hdrop, List.append_nil]⟩, ?_, ?_⟩
  · have hshort : name.take shift ≠ [] := List.ne_nil_of_length_pos (by omega)
    rw [decoy, List.take_succ_cons, List.take_left' hlen, List.getLast?_cons_of_ne_nil hshort]
    exact hseparates
  · have hend : (decoy x shift name).drop (shift + 1 + name.length) = [] := by
      refine List.drop_eq_nil_of_le ?_
      rw [length_decoy hlt]
      omega
    rw [hend]
    rfl

/-- The name does not stand at the beginning, if it begins with another character. -/
theorem not_prefix_decoy (hne : name ≠ []) (hother : x ≠ name.head hne) :
    ¬ name <+: decoy x shift name := by
  obtain ⟨c, others, rfl⟩ := List.exists_cons_of_ne_nil hne
  exact fun h => hother (List.cons_prefix_cons.mp h).1.symm

theorem met_decoy (hne : name ≠ []) (hother : x ≠ name.head hne)
    (hagain : name.drop shift <+: name) : Met name (decoy x shift name) 1 := by
  rw [Met]
  refine ⟨prefix_take_append hagain, fun earlier hearlier _ hmet => ?_⟩
  obtain rfl : earlier = 0 := by omega
  rw [Met] at hmet
  exact not_prefix_decoy hne hother hmet.1

/-- Only the first time the name is met. -/
theorem eq_one_of_met_decoy (hlt : shift < name.length) (hne : name ≠ [])
    (hother : x ≠ name.head hne) (hagain : name.drop shift <+: name)
    (hmet : Met name (decoy x shift name) place) : place = 1 := by
  rw [Met] at hmet
  obtain ⟨hstands, hapart⟩ := hmet
  match place with
  | 0 => exact absurd hstands (not_prefix_decoy hne hother)
  | 1 => rfl
  | place + 2 =>
    exfalso
    by_cases hinside : place + 2 < 1 + name.length
    · exact hapart 1 (by omega) hinside (met_decoy hne hother hagain)
    · have hle := hstands.length_le
      rw [List.length_drop, length_decoy hlt] at hle
      omega

/-- A name that recurs is missed in some text: there it follows an identifier character, so it does
not stand alone, but the search passes over it and over the place where it begins anew. -/
theorem exists_missed (hname : Recurs name) : ∃ text, (∃ place, AloneAt name text place) ∧
    ∀ place, Met name text place → ¬ AloneAt name text place := by
  obtain ⟨shift, hlt, hpos, hseparates, hagain⟩ := hname
  have hne : name ≠ [] := List.ne_nil_of_length_pos (by omega)
  obtain ⟨x, hx, hother⟩ := exists_identifier_ne (name.head hne)
  refine ⟨decoy x shift name, ⟨shift + 1, aloneAt_decoy hlt hpos hseparates⟩, ?_⟩
  intro place hmet halone
  obtain rfl := eq_one_of_met_decoy hlt hne hother hagain hmet
  have hbefore := halone.before
  rw [decoy, List.take_succ_cons, List.take_zero, List.getLast?_singleton, separates_some, hx]
    at hbefore
  exact nomatch hbefore

end

section

variable {source name : String}

/-- **What the search misses**: of names that do not recur, nothing. -/
theorem metAlone_iff_standsAlone (hname : ¬ Recurs name.toList) :
    MetAlone source name ↔ StandsAlone source name := by
  refine ⟨MetAlone.standsAlone, ?_⟩
  rintro ⟨hne, place, halone⟩
  exact ⟨hne, place, met_of_aloneAt hname halone, halone⟩

/-- A name that recurs stands alone in some text where it is not found. -/
theorem exists_standsAlone_not_metAlone (hname : Recurs name.toList) :
    ∃ source, StandsAlone source name ∧ ¬ MetAlone source name := by
  have hne : name ≠ "" := by
    rintro rfl
    exact absurd hname (by decide)
  obtain ⟨text, ⟨place, halone⟩, hmissed⟩ := exists_missed hname
  refine ⟨String.ofList text, ⟨hne, place, ?_⟩, ?_⟩
  · rwa [String.toList_ofList]
  · rintro ⟨-, place, hmet, halone⟩
    rw [String.toList_ofList] at hmet halone
    exact hmissed place hmet halone

end

end WidgetForge.Text
