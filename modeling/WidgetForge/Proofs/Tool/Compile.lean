import WidgetForge.Proofs.Procedure.Run
import WidgetForge.Proofs.Widget.Request
import WidgetForge.Tool.Registry

/-!
# What the tool tells about a request

The tool that compiles widgets throws the status line of a failure away and keeps the error; the
line is made again from the error when the agent is told of it. It comes out the same, so a call of
the tool does what the compiler does and tells what the compiler reports.
-/

namespace WidgetForge.Tool

open Compiler Widget

/-! ### Finding tools -/

theorem find?_place_self (tool : Tool) (tools : List Tool) :
    (Registry.place tool tools).find? (fun t => t.name = tool.name) = some tool := by
  induction tools with
  | nil => simp [Registry.place]
  | cons t tools ih =>
    rw [Registry.place]
    split_ifs with hname hprecedes
    · simp
    · simp
    · simpa [Ne.symm hname] using ih

theorem find?_place_other {tool : Tool} {name : String} (h : tool.name ≠ name) (tools : List Tool) :
    (Registry.place tool tools).find? (fun t => t.name = name) =
      tools.find? fun t => t.name = name := by
  induction tools with
  | nil => simp [Registry.place, h]
  | cons t tools ih =>
    rw [Registry.place]
    split_ifs with hname hprecedes
    · simp [h, ← hname]
    · simp [h]
    · simp [List.find?_cons, ih]

namespace Registry

/-- A tool that is registered is found under its name. -/
theorem get?_register_self (registry : Registry) (tool : Tool) :
    (registry.register tool).get? tool.name = some tool :=
  find?_place_self tool registry.tools

theorem get?_register_other (registry : Registry) {tool : Tool} {name : String}
    (h : tool.name ≠ name) : (registry.register tool).get? name = registry.get? name :=
  find?_place_other h registry.tools

/-- A host offers the compiler of widgets. -/
theorem get?_standard (o : Options) : (standard o).get? compileName = some (compile o) := by
  have hother : TotalLength.tool.name ≠ compileName := by decide
  rw [standard, get?_register_other _ hother]
  exact get?_register_self empty (compile o)

theorem get?_standard_total (o : Options) :
    (standard o).get? TotalLength.tool.name = some TotalLength.tool :=
  get?_register_self _ _

/-- A host offers no other tools. -/
theorem get?_standard_other (o : Options) {name : String} (hcompile : name ≠ compileName)
    (htotal : name ≠ TotalLength.tool.name) : (standard o).get? name = none := by
  have hname : (compile o).name ≠ name := hcompile.symm
  rw [standard, get?_register_other _ htotal.symm]
  exact get?_register_other empty hname

end Registry

/-! ### Calling the compiler -/

/-- What the agent is told about a report. -/
def told (report : Report) : Output := ⟨report.status, report.error.map .compile⟩

/-- The line of a failure is the same when it is made again from the error. -/
theorem output_ofReport (outcome : Except CompileError Compiler.Output) :
    (Result.ofReport (Report.of outcome)).output = .ok (told (Report.of outcome)) := by
  match outcome with
  | .ok ⟨_, some _⟩ => rfl
  | .ok ⟨_, none⟩ => rfl
  | .error _ => rfl

/-- **A call of the tool takes the steps of the compiler and tells what the compiler reports.** -/
theorem dispatch_compile {registry : Registry} {o : Options}
    (h : registry.get? compileName = some (compile o)) (r : Request) :
    registry.dispatch compileName r.toValue = (run o r).map fun report => .ok (told report) := by
  have hcall : registry.call compileName r.toValue = (run o r).map Result.ofReport := by
    simp only [Registry.call, h, compile, Request.ofValue_toValue]
  -- Only of reports of the compiler is it true that the line can be made again.
  rw [Registry.dispatch, hcall, run, Procedure.map_map, Procedure.map_map, Procedure.map_map]
  simp only [output_ofReport]

end WidgetForge.Tool
