import WidgetForge.Proofs.CommandLine.CompileJob
import WidgetForge.Proofs.Compiler.Effects
import WidgetForge.Proofs.Host.Alone
import WidgetForge.Proofs.Host.Calls
import WidgetForge.Proofs.Tool.Compile

/-!
# All entry points agree

A request reaches the compiler in four ways: it is given to the compiler itself, as the arguments of
the tool, in the line of a call to a host, or in a file named on the command line. On each way it is
written, read and decoded, the compiler is run, and what it reports is put into another form. The
same request always comes out, and the same report.
-/

namespace WidgetForge

open Compiler Disk Host Json Text Tool Widget
open CommandLine.CompilerProgram (Asks asks_compileWords compileWords execute execute_of_asks quiet)

/-- There is an error exactly if the request was not compiled. -/
theorem error_run_eq_none_iff (o : Options) (r : Request) (w : World) :
    ((run o r).run w).1.error = none ↔ ∃ output, ((Compiler.compile o r).run w).1 = .ok output := by
  rw [run, Procedure.run_map]
  rcases ((Compiler.compile o r).run w).1 with e | ⟨artifact, _ | path⟩
  · simp [Report.of]
  · simp [Report.of]
  · simp [Report.of]

/-- What the tool tells about a run of the compiler. -/
theorem run_dispatch {registry : Registry} {o : Options}
    (hregistry : registry.get? compileName = some (Tool.compile o)) (r : Request) (w : World) :
    (registry.dispatch compileName r.toValue).run w =
      (.ok (told ((run o r).run w).1), ((run o r).run w).2) := by
  rw [dispatch_compile hregistry, Procedure.run_map]

/-- What a host replies to the line of a call of the tool. -/
theorem serve_callLine {registry : Registry} {o : Options}
    (hregistry : registry.get? compileName = some (Tool.compile o)) (r : Request) (w : World)
    {id : String} {v : Value} (hid : value (depthLimit - 1) id.toList = .ok (v, []))
    (hline : '\n' ∉ id.toList) (instructions : String) (ending : Ending)
    (schedule : List Session.Turn) :
    ∃ s, Host.serve ⟨registry, instructions⟩ .working
        (Utf8.encode (callLine id compileName r.toValue)) ending schedule w =
        (outcome ending none, s) ∧
      s.written = [.ofOutput v.settle (told ((run o r).run w).1)] ∧
      s.world = ((run o r).run w).2 := by
  have hback : ReadsBack (value (depthLimit - 1)) r.toValue := r.readsBack_toValue 125
  have hreceive := @receive_callLine id compileName v r.toValue ⟨registry, instructions⟩ hid hback
  rw [r.settle_toValue] at hreceive
  obtain ⟨hwritten, hworld, hbroken⟩ := Session.follow_alone hreceive w schedule
  obtain ⟨body, hbody, hencoded⟩ :=
    @encode_callLine id compileName r.toValue hline r.newline_not_mem
  have hperform : (perform ⟨registry, instructions⟩ 0 ⟨v.settle, compileName, r.toValue⟩).run w =
      (.ofOutput v.settle (told ((run o r).run w).1), ((run o r).run w).2) := by
    rw [perform, Procedure.run_map, run_dispatch hregistry]
    rfl
  rw [hperform] at hwritten hworld
  refine ⟨_, ?_, hwritten, hworld⟩
  rw [serve, hencoded, lines_line hbody, ← hencoded, hbroken]

/-- **All entry points agree.** What the compiler reports of a request, the tool tells, a host
replies, under any schedule, to the one line of a call, and the program prints if the request is in
a file: the same text, and the same kind and wording of the error, if there is one. The operator has
been asked the same, and the file tree is the same. The program, which does not ask, exits with zero
exactly if there is no error, that is if the request was compiled, whether or not the script was
saved. -/
theorem entry_points_agree {registry : Registry} {o : Options}
    (hregistry : registry.get? compileName = some (Tool.compile o)) (r : Request) (w : World)
    {id : String} {v : Value} (hid : value (depthLimit - 1) id.toList = .ok (v, []))
    (hline : '\n' ∉ id.toList) (instructions : String) (ending : Ending)
    (schedule : List Session.Turn) :
    (∃ output, (registry.dispatch compileName r.toValue).run w = (.ok output, ((run o r).run w).2) ∧
      output.text = ((run o r).run w).1.status ∧
      output.error.map (fun e => (e.kind, e.message)) =
        ((run o r).run w).1.error.map fun e => (e.kind, e.message)) ∧
    (∃ s, Host.serve ⟨registry, instructions⟩ .working
        (Utf8.encode (callLine id compileName r.toValue)) ending schedule w =
        (outcome ending none, s) ∧
      s.written = [.result v.settle ((run o r).run w).1.status
        (((run o r).run w).1.error.map fun e => ⟨e.kind, e.message⟩)] ∧
      s.world = ((run o r).run w).2) ∧
    ∀ env words file tree typed, Asks env words file o →
      Tree.lookUp tree file = .ok (.file (Utf8.encode r.toValue.text)) →
      (execute env words typed tree).1.output =
          ((run o r).run (quiet tree typed)).1.status ++ "\n" ∧
        (execute env words typed tree).2 = ((run o r).run (quiet tree typed)).2.tree ∧
        ((execute env words typed tree).1.status = 0 ↔
          ((run o r).run (quiet tree typed)).1.error = none) ∧
        (((run o r).run (quiet tree typed)).1.error = none ↔
          ∃ output, ((Compiler.compile o r).run (quiet tree typed)).1 = .ok output) := by
  refine ⟨⟨_, run_dispatch hregistry r w, rfl, ?_⟩, ?_, ?_⟩
  · rw [told, Option.map_map]
    rfl
  · obtain ⟨s, hserve, hwritten, hworld⟩ :=
      serve_callLine hregistry r w hid hline instructions ending schedule
    refine ⟨s, hserve, ?_, hworld⟩
    rw [hwritten, Reply.ofOutput, told, Option.map_map]
    rfl
  · intro env words file tree typed hwords hfile
    obtain ⟨houtput, htree, hstatus⟩ := execute_of_asks hwords hfile r.parse_text typed
    exact ⟨houtput, htree, hstatus, error_run_eq_none_iff o r _⟩

/-- A tree with a request in a file. -/
def shelf : Tree := ⟨[(["clock.json"], .file (Utf8.encode clock.toValue.text))], []⟩

theorem entry_points_agree_bare :
    (∃ output, ((Registry.standard plain).dispatch compileName clock.toValue).run bare =
        (.ok output, ((run plain clock).run bare).2) ∧
      output.text = ((run plain clock).run bare).1.status) ∧
    (∃ s, Host.serve ⟨Registry.standard plain, ""⟩ .working
        (Utf8.encode (callLine "7" compileName clock.toValue)) .closed [.read] bare = (.ok (), s) ∧
      s.world = ((run plain clock).run bare).2) ∧
    (execute ⟨some ⟨"/"⟩, none⟩
        (compileWords ⟨"/clock.json"⟩ (some ⟨"/widgets"⟩) defaultFileName false false) []
        shelf).1.output =
      ((run plain clock).run (quiet shelf [])).1.status ++ "\n" := by
  have hid : value (depthLimit - 1) "7".toList = .ok (.integer 7 (by decide), []) := by rfl
  obtain ⟨⟨output, hdispatch, htext, -⟩, ⟨s, hserve, -, hworld⟩, hprogram⟩ :=
    entry_points_agree (Registry.get?_standard plain) clock bare hid (by decide) "" .closed [.read]
  have hwords := @asks_compileWords ⟨some ⟨"/"⟩, none⟩ ⟨"/clock.json"⟩ ⟨"/widgets"⟩ (by decide)
    (by decide) defaultFileName false false
  have hfile : shelf.lookUp ⟨"/clock.json"⟩ = .ok (.file (Utf8.encode clock.toValue.text)) := by
    rfl
  exact ⟨⟨output, hdispatch, htext⟩, ⟨s, hserve, hworld⟩, (hprogram _ _ _ _ [] hwords hfile).1⟩

end WidgetForge
