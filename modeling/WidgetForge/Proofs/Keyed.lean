import Mathlib.Data.List.Induction
import Mathlib.Data.List.Perm.Basic
import WidgetForge.Keyed

/-!
# Names and their values

Entries may repeat names. Which values they give a name, and in which order the names appear first,
is all that matters of them when a keyed list is made: it has each name once, in this order, with
the last of its values (`LastOf`). The values of one name depend neither on the entries of other
names nor on where these stand.
-/

namespace WidgetForge.Keyed

section

variable {α : Type} {name key : String} {a : α} {list list' : List (String × α)}

/-! ### What a keyed list keeps -/

theorem mem_of_mem_put {m : String × α} (h : m ∈ put name a list) : m = (name, a) ∨ m ∈ list := by
  induction list with
  | nil => exact .inl (List.mem_singleton.mp h)
  | cons entry rest ih =>
    rw [put] at h
    split_ifs at h with hname
    · rcases List.mem_cons.mp h with rfl | h
      · exact .inl (by rw [← hname])
      · exact .inr (List.mem_cons_of_mem _ h)
    · rcases List.mem_cons.mp h with rfl | h
      · exact .inr List.mem_cons_self
      · exact (ih h).imp id (List.mem_cons_of_mem _)

/-- Entries are given one by one, the last one last. -/
theorem ofList_concat (entries : List (String × α)) :
    ofList (entries ++ [(name, a)]) = put name a (ofList entries) := by
  rw [ofList, List.foldl_append]
  rfl

/-- What is kept of some entries is among them. -/
theorem mem_of_mem_ofList {entries : List (String × α)} {m : String × α}
    (h : m ∈ ofList entries) : m ∈ entries := by
  induction entries using List.reverseRecOn with
  | nil => exact h
  | append_singleton entries entry ih =>
    rw [ofList_concat] at h
    rcases mem_of_mem_put h with rfl | h
    · exact List.mem_append_right _ List.mem_cons_self
    · exact List.mem_append_left _ (ih h)

theorem get?_append (name : String) (list more : List (String × α)) :
    get? name (list ++ more) = (get? name list).or (get? name more) := by
  induction list with
  | nil => rfl
  | cons entry rest ih =>
    obtain ⟨n, a⟩ := entry
    rw [List.cons_append, get?, get?]
    split_ifs
    · rfl
    · exact ih

theorem get?_eq_none (h : name ∉ names list) : get? name list = none := by
  induction list with
  | nil => rfl
  | cons entry rest ih =>
    obtain ⟨n, a⟩ := entry
    obtain ⟨hne, hrest⟩ := not_or.mp (mt List.mem_cons.mpr h)
    rw [get?, if_neg (Ne.symm hne), ih hrest]

end

section

variable {α β : Type}

/-- Changing the values does not change where a value is put. -/
theorem put_map (f : α → β) (name : String) (value : α) (list : List (String × α)) :
    put name (f value) (list.map (Prod.map id f)) =
      (put name value list).map (Prod.map id f) := by
  induction list with
  | nil => rfl
  | cons entry rest ih =>
    obtain ⟨n, v⟩ := entry
    by_cases hn : n = name
    · simp [put, hn]
    · simp [put, hn, ih]

/-- Changing the values does not change which names and positions count. -/
theorem ofList_map (f : α → β) (entries : List (String × α)) :
    ofList (entries.map (Prod.map id f)) = (ofList entries).map (Prod.map id f) := by
  induction entries using List.reverseRecOn with
  | nil => rfl
  | append_singleton entries entry ih =>
    rw [List.map_append, ofList_concat, ← put_map, ← ih]
    exact ofList_concat _

theorem names_map (f : α → β) (list : List (String × α)) :
    names (list.map (Prod.map id f)) = names list := by
  simp [names]

end

section

variable {α : Type} {name key : String} {a : α} {list list' : List (String × α)}

/-! ### The values of a name -/

/-- All values under a name, in order. -/
def valuesOf (name : String) : List (String × α) → List α
  | [] => []
  | (n, a) :: rest => if n = name then a :: valuesOf name rest else valuesOf name rest

theorem valuesOf_cons_self : valuesOf name ((name, a) :: list) = a :: valuesOf name list := by
  rw [valuesOf, if_pos rfl]

theorem valuesOf_cons_of_ne (h : key ≠ name) :
    valuesOf name ((key, a) :: list) = valuesOf name list := by
  rw [valuesOf, if_neg h]

theorem valuesOf_eq_nil : valuesOf name list = [] ↔ name ∉ names list := by
  induction list with
  | nil => simp [valuesOf, names]
  | cons entry rest ih =>
    obtain ⟨n, b⟩ := entry
    by_cases h : n = name
    · subst h
      simp [valuesOf_cons_self, names]
    · simp only [names] at ih
      simp [valuesOf_cons_of_ne h, ih, names, Ne.symm h]

/-- Under a name that is not repeated there is one value at most. -/
theorem valuesOf_eq_singleton (hdistinct : (names list).Nodup) (h : (name, a) ∈ list) :
    valuesOf name list = [a] := by
  induction list with
  | nil => exact absurd h List.not_mem_nil
  | cons entry rest ih =>
    obtain ⟨n, b⟩ := entry
    obtain ⟨hnew, hrest⟩ := List.nodup_cons.mp hdistinct
    rcases List.mem_cons.mp h with heq | hmem
    · obtain ⟨rfl, rfl⟩ := Prod.mk.inj heq
      rw [valuesOf_cons_self, valuesOf_eq_nil.mpr hnew]
    · have hname : name ∈ names rest := List.mem_map.mpr ⟨(name, a), hmem, rfl⟩
      have hn : n ≠ name := fun heq => hnew (heq ▸ hname)
      rw [valuesOf_cons_of_ne hn, ih hrest hmem]

theorem valuesOf_eq_map_filter (name : String) (list : List (String × α)) :
    valuesOf name list = (list.filter (·.1 = name)).map Prod.snd := by
  induction list with
  | nil => rfl
  | cons entry rest ih =>
    obtain ⟨n, b⟩ := entry
    by_cases h : n = name
    · subst h
      simp [valuesOf_cons_self, ih]
    · simp [valuesOf_cons_of_ne h, ih, h]

theorem valuesOf_append (name : String) (list more : List (String × α)) :
    valuesOf name (list ++ more) = valuesOf name list ++ valuesOf name more := by
  simp only [valuesOf_eq_map_filter, List.filter_append, List.map_append]

theorem valuesOf_map {β : Type} (f : α → β) (name : String) (list : List (String × α)) :
    valuesOf name (list.map (Prod.map id f)) = (valuesOf name list).map f := by
  simp only [valuesOf_eq_map_filter, List.filter_map, List.map_map]
  rfl

theorem mem_valuesOf : a ∈ valuesOf name list ↔ (name, a) ∈ list := by
  rw [valuesOf_eq_map_filter]
  simp

/-- The last value of a name is the one that it has where it appears last. -/
theorem getLast?_valuesOf : (valuesOf name list).getLast? = some a ↔
    ∃ before behind, list = before ++ (name, a) :: behind ∧ name ∉ names behind := by
  constructor
  · intro h
    induction list using List.reverseRecOn with
    | nil => exact nomatch h
    | append_singleton list entry ih =>
      obtain ⟨key, b⟩ := entry
      rw [valuesOf_append] at h
      by_cases hkey : key = name
      · subst hkey
        rw [valuesOf_cons_self, List.getLast?_append] at h
        obtain rfl : b = a := Option.some.inj h
        exact ⟨list, [], rfl, List.not_mem_nil⟩
      · rw [valuesOf_cons_of_ne hkey, valuesOf, List.append_nil] at h
        obtain ⟨before, behind, rfl, hbehind⟩ := ih h
        refine ⟨before, behind ++ [(key, b)], by simp, ?_⟩
        simpa [names, Ne.symm hkey] using hbehind
  · rintro ⟨before, behind, rfl, hbehind⟩
    rw [valuesOf_append, valuesOf_cons_self, valuesOf_eq_nil.mpr hbehind, List.getLast?_append]
    rfl

/-- The entries of other names do not matter for the values of a name. -/
theorem valuesOf_filter {p : String → Bool} (h : p name = true) (list : List (String × α)) :
    valuesOf name (list.filter fun entry => p entry.1) = valuesOf name list := by
  rw [valuesOf_eq_map_filter, valuesOf_eq_map_filter, List.filter_filter]
  congr 1
  refine List.filter_congr fun entry _ => ?_
  by_cases hname : entry.1 = name <;> simp [hname, h]

/-- Where entries stand matters only for the order of the values of a name. -/
theorem valuesOf_perm (h : list.Perm list') (name : String) :
    (valuesOf name list).Perm (valuesOf name list') := by
  rw [valuesOf_eq_map_filter, valuesOf_eq_map_filter]
  exact (h.filter _).map _

/-! ### First positions and last values -/

theorem names_put (name : String) (a : α) (list : List (String × α)) :
    names (put name a list) = if name ∈ names list then names list else names list ++ [name] := by
  split_ifs with h
  · induction list with
    | nil => exact absurd h List.not_mem_nil
    | cons entry rest ih =>
      obtain ⟨n, b⟩ := entry
      by_cases hn : n = name
      · simp [names, put, hn]
      · have hrest := ih ((List.mem_cons.mp h).resolve_left (Ne.symm hn))
        simpa [names, put, hn] using hrest
  · rw [put_of_not_mem h]
    simp [names]

/-- A keyed list has the names of its entries, in the order in which they appear first. -/
theorem names_ofList (entries : List (String × α)) :
    names (ofList entries) = (names entries).eraseDups := by
  induction entries using List.reverseRecOn with
  | nil => rfl
  | append_singleton entries entry ih =>
    have hnames : names (entries ++ [entry]) = names entries ++ [entry.1] := List.map_append
    rw [ofList_concat, names_put, ih, hnames, List.eraseDups_append]
    by_cases h : entry.1 ∈ names entries
    · simp [h, List.removeAll]
    · simp [h, List.removeAll, List.eraseDups_cons]

/-- The names of a keyed list stand in the order in which they appear first among the entries. -/
theorem pairwise_names_ofList (entries : List (String × α)) :
    (names (ofList entries)).Pairwise fun earlier later =>
      (names entries).idxOf earlier < (names entries).idxOf later := by
  induction entries using List.reverseRecOn with
  | nil => exact .nil
  | append_singleton entries entry ih =>
    have hmem {n : String} (hn : n ∈ names (ofList entries)) : n ∈ names entries := by
      rwa [names_ofList, List.mem_eraseDups] at hn
    have hnames : names (entries ++ [entry]) = names entries ++ [entry.1] := List.map_append
    -- one more entry does not move the first places of the names before it
    have hkept : (names (ofList entries)).Pairwise fun earlier later =>
        (names entries ++ [entry.1]).idxOf earlier < (names entries ++ [entry.1]).idxOf later := by
      refine ih.imp_of_mem fun hearlier hlater hlt => ?_
      rwa [List.idxOf_append_of_mem (hmem hearlier), List.idxOf_append_of_mem (hmem hlater)]
    rw [ofList_concat, names_put, hnames]
    split_ifs with hold
    · exact hkept
    · rw [List.pairwise_append]
      refine ⟨hkept, List.pairwise_singleton _ _, fun n hn m hm => ?_⟩
      obtain rfl := List.mem_singleton.mp hm
      have hnew : entry.1 ∉ names entries := by
        rwa [names_ofList, List.mem_eraseDups] at hold
      rw [List.idxOf_append_of_mem (hmem hn), List.idxOf_append_of_notMem hnew]
      exact Nat.lt_add_right _ (List.idxOf_lt_length_of_mem (hmem hn))

theorem valuesOf_put_self (h : (names list).Nodup) : valuesOf name (put name a list) = [a] := by
  refine valuesOf_eq_singleton (nodup_put h) ?_
  clear h
  induction list with
  | nil => exact List.mem_singleton_self _
  | cons entry rest ih =>
    rw [put]
    split_ifs with hn
    · rw [hn]
      exact List.mem_cons_self
    · exact List.mem_cons_of_mem _ ih

theorem valuesOf_put_of_ne (h : key ≠ name) (a : α) (list : List (String × α)) :
    valuesOf name (put key a list) = valuesOf name list := by
  induction list with
  | nil => exact valuesOf_cons_of_ne h
  | cons entry rest ih =>
    obtain ⟨n, b⟩ := entry
    rw [put]
    split_ifs with hn
    · rw [hn, valuesOf_cons_of_ne h, valuesOf_cons_of_ne h]
    · simp only [valuesOf, ih]

/-- A keyed list has the last value of each name. -/
theorem valuesOf_ofList (name : String) (entries : List (String × α)) :
    valuesOf name (ofList entries) = (valuesOf name entries).getLast?.toList := by
  induction entries using List.reverseRecOn with
  | nil => rfl
  | append_singleton entries entry ih =>
    rw [ofList_concat, valuesOf_append]
    by_cases h : entry.1 = name
    · rw [← h, valuesOf_put_self (nodup_ofList entries), valuesOf_cons_self, valuesOf,
        List.getLast?_append]
      rfl
    · rw [valuesOf_put_of_ne h, ih, valuesOf_cons_of_ne h, valuesOf, List.append_nil]

theorem mem_ofList {entries : List (String × α)} :
    (name, a) ∈ ofList entries ↔ (valuesOf name entries).getLast? = some a := by
  rw [← mem_valuesOf, valuesOf_ofList, Option.mem_toList]

/-- The keyed list has each name of the entries once, in the order in which they appear first, and
with its last value. -/
structure LastOf (entries list : List (String × α)) : Prop where
  names : names list = (names entries).eraseDups
  last : ∀ entry ∈ list, (valuesOf entry.1 entries).getLast? = some entry.2

theorem lastOf_ofList (entries : List (String × α)) : LastOf entries (ofList entries) where
  names := names_ofList entries
  last _ hentry := mem_ofList.mp hentry

/-- Of the entries before others only what they settle to matters. -/
theorem ofList_append (entries more : List (String × α)) :
    ofList (entries ++ more) = ofList (ofList entries ++ more) := by
  have hsplit (first : List (String × α)) : ofList (first ++ more) =
      more.foldl (fun list entry => put entry.1 entry.2 list) (ofList first) := List.foldl_append
  rw [hsplit, hsplit, ofList_of_nodup (nodup_ofList entries)]

/-- Names and their values make up a list in which no name is repeated. -/
theorem eq_of_valuesOf (hnames : names list = names list') (hdistinct : (names list).Nodup)
    (h : ∀ entry ∈ list, valuesOf entry.1 list' = [entry.2]) : list = list' := by
  induction list generalizing list' with
  | nil => exact (List.map_eq_nil_iff.mp hnames.symm).symm
  | cons entry rest ih =>
    obtain ⟨n, a⟩ := entry
    cases list' with
    | nil => exact nomatch hnames
    | cons entry' rest' =>
      obtain ⟨n', a'⟩ := entry'
      obtain ⟨hname, hrest⟩ := List.cons.inj hnames
      obtain ⟨hnew, hdistinct⟩ := List.nodup_cons.mp hdistinct
      obtain rfl : n = n' := hname
      have hvalue := h (n, a) List.mem_cons_self
      rw [valuesOf_cons_self] at hvalue
      rw [(List.cons.inj hvalue).1, ih hrest hdistinct fun entry hentry => ?_]
      have hne : n ≠ entry.1 := fun heq => hnew (List.mem_map.mpr ⟨entry, hentry, heq.symm⟩)
      rw [← h entry (List.mem_cons_of_mem _ hentry), valuesOf_cons_of_ne hne]

/-- **A keyed list is known by its names and its last values.** -/
theorem lastOf_iff {entries : List (String × α)} : LastOf entries list ↔ list = ofList entries := by
  constructor
  · intro h
    have hnames : names list = names (ofList entries) := h.names.trans (names_ofList entries).symm
    refine eq_of_valuesOf hnames (hnames ▸ nodup_ofList entries) fun entry hentry => ?_
    rw [valuesOf_ofList, h.last entry hentry]
    rfl
  · rintro rfl
    exact lastOf_ofList entries

end

end WidgetForge.Keyed
