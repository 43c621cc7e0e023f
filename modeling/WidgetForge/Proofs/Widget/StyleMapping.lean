import WidgetForge.Proofs.Json.Records
import WidgetForge.Proofs.Keyed
import WidgetForge.Widget.StyleMapping

/-!
# Style mappings

A mapping that arises from giving bodies to names has each name once, where it is given first, with
the body that it is given last. So a mapping is made of its own entries again, and what has been
given before may be settled first.

## Mappings read back from their text

The text of a style dictionary is an object of strings. Reading it goes through two lists, and in
both a repeated name counts with its first position and its last value: the members of the object
are settled, and then the mapping is made of them. So a text that lists names and bodies gives the
mapping that these names and bodies give without a text, whatever characters they hold and whichever
names are repeated.
-/

namespace WidgetForge.Widget.StyleMapping

open Json

/-! ### Giving bodies to names -/

/-- A mapping is its entries. -/
theorem eq_of_entries {m m' : StyleMapping} (h : m.entries = m'.entries) : m = m' := by
  cases m
  cases m'
  cases h
  rfl

/-- **A mapping has each name once, where it is given first, with the body that it is given last.**
A mapping settles to itself, and giving more bodies to the names of a list is giving them to the
names of what the list settles to. -/
theorem ofList_keeps_first_and_last (entries : List (String × String)) :
    (ofList entries).names.Nodup ∧
    (∀ name, name ∈ (ofList entries).names ↔ name ∈ Keyed.names entries) ∧
    ((ofList entries).names.Pairwise fun earlier later =>
      (Keyed.names entries).idxOf earlier < (Keyed.names entries).idxOf later) ∧
    (∀ name body, (name, body) ∈ (ofList entries).entries ↔
      ∃ before behind, entries = before ++ (name, body) :: behind ∧ name ∉ Keyed.names behind) ∧
    (∀ m : StyleMapping, ofList m.entries = m) ∧
    ∀ more, ofList (entries ++ more) = ofList ((ofList entries).entries ++ more) := by
  refine ⟨Keyed.nodup_ofList entries, fun name => ?_, Keyed.pairwise_names_ofList entries,
    fun name body => Keyed.mem_ofList.trans Keyed.getLast?_valuesOf,
    fun m => eq_of_entries (Keyed.ofList_of_nodup m.distinct),
    fun more => eq_of_entries (Keyed.ofList_append entries more)⟩
  rw [names, ofList, Keyed.names_ofList, List.mem_eraseDups]

example : (ofList [("a", "1"), ("b", "2"), ("a", "3")]).entries = [("a", "3"), ("b", "2")] := by
  decide

/-! ### Listings -/

/-- The members of the object that lists names and bodies. -/
def textMembers (entries : List (String × String)) : List (String × Value) :=
  entries.map (Prod.map id Value.string)

/-- The text of the object that lists names and bodies in this order. -/
def listing (entries : List (String × String)) : String := (Value.object (textMembers entries)).text

theorem isScalar_of_mem_textMembers {entries : List (String × String)} {m : String × Value}
    (hm : m ∈ textMembers entries) : m.2.IsScalar := by
  obtain ⟨entry, -, rfl⟩ := List.mem_map.mp hm
  trivial

/-- The bodies are taken out of the members again. -/
theorem bodies_textMembers (entries : List (String × String)) :
    bodies (textMembers entries) = some entries := by
  induction entries with
  | nil => rfl
  | cons entry rest ih =>
    have hcons : textMembers (entry :: rest) = (entry.1, .string entry.2) :: textMembers rest := rfl
    rw [hcons, bodies, ih]
    rfl

/-- The listing is read with all its members. -/
theorem read_listing (entries : List (String × String)) :
    Value.read (listing entries) = .ok (.object (textMembers entries)) :=
  read_text fun _ hm => plain_of_isScalar (isScalar_of_mem_textMembers hm) _

/-- Of a repeated name in a listing the first position and the last body count. -/
theorem dictionary_listing (entries : List (String × String)) :
    dictionary (listing entries) = some (Keyed.ofList entries) := by
  have hsettle : (Value.object (textMembers entries)).settle =
      .object (textMembers (Keyed.ofList entries)) := by
    rw [Value.settle, Record.settleMembers_of_isScalar fun m hm => isScalar_of_mem_textMembers hm]
    exact congrArg Value.object (Keyed.ofList_map Value.string entries)
  rw [dictionary, Value.parse, read_listing, Except.map, hsettle]
  exact bodies_textMembers _

/-- **A listing of names and bodies gives the mapping that they give**, and if no name is repeated,
this mapping has them as its entries, in order and character for character. -/
theorem parse_listing (entries : List (String × String)) :
    parse (listing entries) = ofList entries ∧
      ((Keyed.names entries).Nodup → (parse (listing entries)).entries = entries) := by
  have hparse : parse (listing entries) = ofList entries := by
    rw [parse, dictionary_listing]
    -- the entries are settled already, so making a mapping of them keeps them all
    have hsettled := Keyed.ofList_of_nodup (Keyed.nodup_ofList entries)
    simp only [ofList, hsettled]
  refine ⟨hparse, fun hdistinct => ?_⟩
  rw [hparse]
  exact Keyed.ofList_of_nodup hdistinct

theorem parse_listing_repeated :
    (parse (listing [("a", "1"), ("b", "2"), ("a", "3")])).entries = [("a", "3"), ("b", "2")] ∧
    (parse (listing [("b", "\"\\"), ("a", "\n")])).entries = [("b", "\"\\"), ("a", "\n")] := by
  constructor
  · rw [(parse_listing _).1]
    decide
  · exact (parse_listing _).2 (by decide)

end WidgetForge.Widget.StyleMapping
