/-!
# Keyed lists

An ordered list of values under names. Giving a name a value puts it at the end if the name is new,
and otherwise in the place where the name stands already: of a repeated name, the first position
and the last value count.
-/

namespace WidgetForge.Keyed

/-- Gives a name a value. -/
def put {α : Type} (name : String) (value : α) : List (String × α) → List (String × α)
  | [] => [(name, value)]
  | (n, v) :: rest => if n = name then (n, value) :: rest else (n, v) :: put name value rest

/-- The value under a name. -/
def get? {α : Type} (name : String) : List (String × α) → Option α
  | [] => none
  | (n, v) :: rest => if n = name then some v else get? name rest

/-- The keyed list that arises from giving values in order. -/
def ofList {α : Type} (entries : List (String × α)) : List (String × α) :=
  entries.foldl (fun list entry => put entry.1 entry.2 list) []

/-- The names, in order. -/
def names {α : Type} (list : List (String × α)) : List String := list.map Prod.fst

/-- Giving a name a value leaves the names as they are, but for the name itself. -/
theorem mem_names_put {α : Type} {name n : String} {value : α} {list : List (String × α)} :
    n ∈ names (put name value list) ↔ n = name ∨ n ∈ names list := by
  induction list with
  | nil => simp [names, put]
  | cons entry rest ih =>
    obtain ⟨m, v⟩ := entry
    by_cases h : m = name
    · simp [names, put, h]
    · simp only [names, put, h, if_false, List.map_cons, List.mem_cons] at ih ⊢
      rw [ih]
      exact or_left_comm

/-- Giving a name a value repeats no name. -/
theorem nodup_put {α : Type} {name : String} {value : α} {list : List (String × α)}
    (h : (names list).Nodup) : (names (put name value list)).Nodup := by
  induction list with
  | nil => simp [names, put]
  | cons entry rest ih =>
    obtain ⟨m, v⟩ := entry
    have hm : m ∉ names rest := (List.nodup_cons.1 h).1
    have hrest : (names rest).Nodup := (List.nodup_cons.1 h).2
    by_cases hn : m = name
    · have := List.nodup_cons.2 ⟨hm, hrest⟩
      simpa [names, put, hn] using this
    · have hput : m ∉ names (put name value rest) := fun hmem =>
        (mem_names_put.1 hmem).elim hn hm
      have := List.nodup_cons.2 ⟨hput, ih hrest⟩
      simpa [names, put, hn] using this

/-- No name stands twice in a keyed list that arises from giving values in order. -/
theorem nodup_ofList {α : Type} (entries : List (String × α)) : (names (ofList entries)).Nodup := by
  suffices h : ∀ list : List (String × α), (names list).Nodup →
      (names (entries.foldl (fun list entry => put entry.1 entry.2 list) list)).Nodup from
    h [] List.nodup_nil
  induction entries with
  | nil => exact fun _ h => h
  | cons entry rest ih => exact fun list h => ih _ (nodup_put h)

/-- A new name goes to the end. -/
theorem put_of_not_mem {α : Type} {name : String} {value : α} {list : List (String × α)}
    (h : name ∉ names list) : put name value list = list ++ [(name, value)] := by
  induction list with
  | nil => rfl
  | cons entry rest ih =>
    obtain ⟨hne, hrest⟩ := not_or.1 (mt List.mem_cons.2 h)
    rw [put, if_neg (Ne.symm hne), ih hrest, List.cons_append]

/-- Entries without a repeated name are kept as they are. -/
theorem ofList_of_nodup {α : Type} {entries : List (String × α)} (h : (names entries).Nodup) :
    ofList entries = entries := by
  suffices hall : ∀ before : List (String × α), (names (before ++ entries)).Nodup →
      entries.foldl (fun list entry => put entry.1 entry.2 list) before = before ++ entries from
    hall [] h
  clear h
  induction entries with
  | nil => simp
  | cons entry rest ih =>
    intro before h
    have hnew : entry.1 ∉ names before := by
      simp only [names, List.map_append, List.map_cons] at h
      exact fun hmem => (List.nodup_append.1 h).2.2 _ hmem _ List.mem_cons_self rfl
    rw [List.append_cons] at h ⊢
    rw [List.foldl_cons, put_of_not_mem hnew]
    exact ih _ h

end WidgetForge.Keyed
