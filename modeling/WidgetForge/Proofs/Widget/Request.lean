import WidgetForge.Proofs.Json.Agreement
import WidgetForge.Proofs.Json.OneLine
import WidgetForge.Widget.Request

/-!
# Two ways to give a request

A request goes through JSON on its way to the compiler: as the arguments of a call, which are read
with the message around them and decoded from a value, or as a file, which is decoded straight from
its text. Both ways give a request that was written back, and both take the same texts for the same
requests, as long as no key is repeated.
-/

namespace WidgetForge.Widget.Request

open Json

/-- The members of a request are scalars with distinct names. -/
theorem flat_record : record.Flat where
  scalar := by decide
  distinct := by decide

theorem ofRow_toRow (r : Request) : ofRow r.toRow = r := rfl

/-- A request is decoded where its row is. -/
theorem map_ofRow {ε : Type} {decoded : Except ε (Row record.fields)} {r : Request} :
    decoded.map ofRow = .ok r ↔ decoded = .ok r.toRow := by
  constructor
  · intro h
    obtain ⟨row, rfl, rfl⟩ := exists_of_map h
    rfl
  · rintro rfl
    rfl

/-- **A request that is encoded is decoded again.** -/
theorem ofValue_toValue (r : Request) : ofValue r.toValue = .ok r := by
  rw [ofValue, toValue, Record.ofValue_toValue flat_record, Except.map, ofRow_toRow]

/-- **A request that is written as a text is decoded again.** -/
theorem parse_text (r : Request) : parse r.toValue.text = .ok r := by
  rw [parse, toValue, Record.parse_text flat_record, Except.map, ofRow_toRow]

/-- A request as a value repeats no key. -/
theorem settle_toValue (r : Request) : r.toValue.settle = r.toValue :=
  Record.settle_toValue flat_record r.toRow

/-- A request that is written as a value reads back. -/
theorem readsBack_toValue (r : Request) (depth : Nat) :
    ReadsBack (value (depth + 1)) r.toValue :=
  value_write (Record.plain_toValue flat_record r.toRow depth)

/-- **A text is decoded alike in both ways**: a request that is written is decoded from its text and
from the value of its text; and any text is decoded straight as a request just if no key of its
object is repeated and the request is decoded from its value. -/
theorem parse_iff_ofValue :
    (∀ r : Request, parse r.toValue.text = .ok r ∧
      ∃ v, Value.parse r.toValue.text = .ok v ∧ ofValue v = .ok r) ∧
    ∀ (text : String) (r : Request), parse text = .ok r ↔
      (∃ v, Value.read text = .ok v ∧ v.KeysDistinct) ∧
        ∃ v, Value.parse text = .ok v ∧ ofValue v = .ok r := by
  refine ⟨fun r => ⟨parse_text r, r.toValue, ?_, ofValue_toValue r⟩, fun text r => ?_⟩
  · have hread : Value.read r.toValue.text = .ok r.toValue :=
      read_text (Record.plain_toValue flat_record r.toRow 126)
    rw [Value.parse, hread, Except.map, settle_toValue]
  · rw [parse, map_ofRow, Record.parse_iff flat_record rfl]
    constructor
    · rintro ⟨v, hread, hrow⟩
      obtain ⟨hkeys, hsettled⟩ := (Record.ofValue_iff_settle flat_record rfl).mp hrow
      have hparse : Value.parse text = .ok v.settle := by
        rw [Value.parse, hread]
        rfl
      exact ⟨⟨v, hread, hkeys⟩, v.settle, hparse, map_ofRow.mpr hsettled⟩
    · rintro ⟨⟨v, hread, hkeys⟩, w, hparse, hrow⟩
      rw [Value.parse, hread] at hparse
      obtain rfl := Except.ok.inj hparse
      exact ⟨v, hread, (Record.ofValue_iff_settle flat_record rfl).mpr ⟨hkeys, map_ofRow.mp hrow⟩⟩

/-- A request is written on one line. -/
theorem newline_not_mem (r : Request) : '\n' ∉ r.toValue.write :=
  control_not_mem_write (by decide) (Record.plain_toValue flat_record r.toRow 0)

end WidgetForge.Widget.Request
