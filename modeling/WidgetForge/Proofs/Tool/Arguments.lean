import WidgetForge.Proofs.Json.Schemas
import WidgetForge.Proofs.Widget.Request
import WidgetForge.Tool.Registry

/-!
# Which arguments the tools take

Each tool tells its callers a schema and decodes the arguments that they give. Both come from the
same record, but in different ways: the schema is written down once and for all, and the arguments
are decoded member by member. They agree: a caller who goes by the schema is never refused, and one
who does not is never taken.
-/

namespace WidgetForge

open Json

/-! ### Requests -/

namespace Widget.Request

/-- The value gives the members of the request, by their names or in their places. The style
variables are without text if none is given. -/
structure GivenBy (v : Value) (r : Request) : Prop where
  command : v.given 0 "command" = [.string r.command]
  interval : v.given 1 "refreshIntervalMs" =
    [.integer r.interval.toInt (isExact_toInt r.interval)]
  positioning : v.given 2 "positioning" = [.string r.positioning]
  markup : v.given 3 "markup" = [.string r.markup]
  styles : v.given 4 "styleVariablesRaw" = [.string r.styles] ∨
    v.given 4 "styleVariablesRaw" = [] ∧ r.styles = ""

theorem exact_record : ∀ f ∈ record.fields, f.shape.IsExact := by decide

/-- A request is decoded from what a value gives for its members. -/
theorem givenBy_of_from {v : Value} {r : Request} (h : Row.From v 0 record.fields r.toRow) :
    r.GivenBy v := by
  obtain ⟨hcommand, hinterval, hpositioning, hmarkup, hstyles, -⟩ := h
  exact {
    command := Field.given_of_required hcommand trivial rfl
    interval := Field.given_of_required hinterval trivial rfl
    positioning := Field.given_of_required hpositioning trivial rfl
    markup := Field.given_of_required hmarkup trivial rfl
    styles := Field.given_of_optional hstyles trivial rfl }

/-- A request that is decoded has been given. -/
theorem givenBy_of_ofValue {v : Value} {r : Request} (h : ofValue v = .ok r) : r.GivenBy v :=
  givenBy_of_from ((Record.ofValue_iff flat_record.distinct).mp (map_ofRow.mp h)).2

/-- The arguments that follow the schema of requests are decoded. -/
theorem exists_ofValue_iff {v : Value} :
    (∃ r, ofValue v = .ok r) ↔ Follows record.schema.toValue v := by
  rw [← Record.exists_ofValue_iff flat_record.distinct rfl exact_record]
  constructor
  · rintro ⟨r, hr⟩
    exact ⟨_, map_ofRow.mp hr⟩
  · rintro ⟨row, hrow⟩
    exact ⟨ofRow row, congrArg (Except.map ofRow) hrow⟩

end Widget.Request

/-! ### Strings -/

namespace Tool.TotalLength

theorem distinct_record : record.names.Nodup := by decide

theorem exact_record : ∀ f ∈ record.fields, f.shape.IsExact := by decide

/-- Strings that are decoded have been given. -/
theorem given_of_ofValue {v : Value} {strings : List String} (h : ofValue v = .ok strings) :
    v.given 0 "strings" = [.array (strings.map .string)] := by
  obtain ⟨row, hrow, rfl⟩ := exists_of_map h
  obtain ⟨hstrings, -⟩ := ((Record.ofValue_iff distinct_record).mp hrow).2
  exact Field.given_of_required hstrings trivial rfl

/-- The arguments that follow the schema of strings are decoded. -/
theorem exists_ofValue_iff {v : Value} :
    (∃ strings, ofValue v = .ok strings) ↔ Follows record.schema.toValue v := by
  rw [← Record.exists_ofValue_iff distinct_record rfl exact_record]
  constructor
  · rintro ⟨strings, h⟩
    obtain ⟨row, hrow, -⟩ := exists_of_map h
    exact ⟨row, hrow⟩
  · rintro ⟨row, hrow⟩
    exact ⟨row.1, congrArg (Except.map Prod.fst) hrow⟩

end Tool.TotalLength

/-! ### Calls -/

namespace Tool

open Compiler Widget

/-- **The tools take what their schemas ask for**: if the arguments follow the schema that a tool
tells its callers, they are decoded to what they give for its members, and this is what the tool
works on; and any other arguments are refused as such. -/
theorem calls_follow_schemas (o : Options) (v : Value) :
    (Follows (compile o).parameters v → ∃ r, Request.ofValue v = .ok r ∧ r.GivenBy v ∧
      (compile o).call v = (run o r).map Result.ofReport) ∧
    (¬ Follows (compile o).parameters v →
      ∃ e, (compile o).call v = .done (.failed (.arguments (compile o).name e))) ∧
    (Follows TotalLength.tool.parameters v → ∃ strings, TotalLength.ofValue v = .ok strings ∧
      v.given 0 "strings" = [.array (strings.map .string)] ∧
      TotalLength.tool.call v = .done (.line (TotalLength.report strings))) ∧
    (¬ Follows TotalLength.tool.parameters v →
      ∃ e, TotalLength.tool.call v = .done (.failed (.arguments TotalLength.tool.name e))) := by
  refine ⟨fun h => ?_, fun h => ?_, fun h => ?_, fun h => ?_⟩
  · obtain ⟨r, hr⟩ := Request.exists_ofValue_iff.mpr h
    exact ⟨r, hr, Request.givenBy_of_ofValue hr, by simp only [compile, hr]⟩
  · cases hr : Request.ofValue v with
    | ok r => exact absurd (Request.exists_ofValue_iff.mp ⟨r, hr⟩) h
    | error m => exact ⟨m.error, by simp only [compile, hr]⟩
  · obtain ⟨strings, hstrings⟩ := TotalLength.exists_ofValue_iff.mpr h
    exact ⟨strings, hstrings, TotalLength.given_of_ofValue hstrings,
      by simp only [TotalLength.tool, hstrings]⟩
  · cases hstrings : TotalLength.ofValue v with
    | ok strings => exact absurd (TotalLength.exists_ofValue_iff.mp ⟨strings, hstrings⟩) h
    | error m => exact ⟨m.error, by simp only [TotalLength.tool, hstrings]⟩

/-- Arguments that list a request without styles. -/
def listed : Value :=
  .array [.string "date", .integer 1000 (by decide), .string "top: 10px;",
    .string "<p>\x7bdata\x7d</p>"]

theorem calls_follow_schemas_listed :
    (∃ r, r.GivenBy listed ∧ r.styles = "" ∧
      (compile ⟨none, defaultFileName, false, false⟩).call listed =
        (run ⟨none, defaultFileName, false, false⟩ r).map Result.ofReport) ∧
    ∃ e, TotalLength.tool.call listed =
      .done (.failed (.arguments TotalLength.tool.name e)) := by
  have hrequest : Follows Request.record.schema.toValue listed := by
    refine ⟨trivial, .inr ((lists_schema (by decide)).mpr ⟨_, rfl, by decide, ?_, ?_⟩)⟩
    · refine List.forall_mem_cons.mpr ⟨⟨_, rfl⟩, ?_⟩
      refine List.forall_mem_cons.mpr ⟨⟨1000, by decide, rfl, by decide⟩, ?_⟩
      exact List.forall_mem_cons.mpr ⟨⟨_, rfl⟩, List.forall_mem_singleton.mpr ⟨_, rfl⟩⟩
    · exact List.forall_mem_singleton.mpr rfl
  have hstrings : ¬ Follows TotalLength.record.schema.toValue listed := by
    rw [← TotalLength.exists_ofValue_iff]
    rintro ⟨strings, h⟩
    exact nomatch h
  obtain ⟨hcompile, -, -, htotal⟩ :=
    calls_follow_schemas ⟨none, defaultFileName, false, false⟩ listed
  obtain ⟨r, -, hgiven, hcall⟩ := hcompile hrequest
  refine ⟨⟨r, hgiven, ?_, hcall⟩, htotal hstrings⟩
  rcases hgiven.styles with hstyles | ⟨-, hstyles⟩
  · exact nomatch hstyles
  · exact hstyles

end Tool

end WidgetForge
