import WidgetForge.Proofs.CommandLine.CompileJob
import WidgetForge.Proofs.CommandLine.Flags
import WidgetForge.Proofs.Compiler.Again
import WidgetForge.Proofs.Tool.Outcomes

/-!
# Printing shows what saving saves

A compiler that is asked to print generates the script as one that saves, and does nothing else. So
the two agree on every request and on all options: they accept the same words, take the same
request, refuse it with the same words, and if the one prints a script, the other can only save this
script. It makes no difference where among the words the printing is asked for.
-/

namespace WidgetForge.CommandLine.CompilerProgram

open Compiler Disk Operator Procedure Text Widget

/-! ### The same command without the flag -/

/-- Words ask for a job if there is the command, and the words behind it describe the job. -/
theorem parse_eq_compile_iff {words : List String} {saying : Bool} {job : Job} :
    parse words = .ok (saying, .compile job) ↔
      ∃ g rest c, grammar.read words = .ok g ∧ g.command = some ("compile", rest) ∧
        compileGrammar.read rest = .ok c ∧ jobOf c = .ok job ∧
        (g.has "verbose" || c.has "verbose") = saying := by
  constructor
  · intro h
    unfold parse at h
    split at h
    · exact nomatch h
    · next g hg =>
      split at h
      · next rest hcommand =>
        split at h
        · exact nomatch h
        · next c hc =>
          cases hjob : jobOf c with
          | error e => simp [hjob, Except.map] at h
          | ok job' =>
            rw [hjob] at h
            cases h
            exact ⟨g, rest, c, hg, hcommand, hc, hjob, rfl⟩
      · next rest _ =>
        cases hread : totalLengthGrammar.read rest <;> simp [hread, Except.map] at h
      · next rest _ =>
        cases hread : toolsGrammar.read rest <;> simp [hread, Except.map] at h
      · exact nomatch h
      · exact nomatch h
  · rintro ⟨g, rest, c, hg, hcommand, hc, hjob, rfl⟩
    simp only [parse, hg, hcommand, hc, hjob, Except.map]

theorem printing_jobOf {c : Given} {job : Job} (h : jobOf c = .ok job) :
    job.printing = c.has "print" := by
  unfold jobOf at h
  cases hpath : c.value? "request" with
  | none =>
    simp only [hpath] at h
    obtain rfl := Except.ok.inj h
    rfl
  | some path =>
    simp only [hpath] at h
    split_ifs at h
    obtain rfl := Except.ok.inj h
    rfl

/-- Nothing else depends on the flag. -/
theorem jobOf_without {c' c : Given} {job : Job} (h : Without "print" c' c)
    (hjob : jobOf c' = .ok job) : jobOf c = .ok { job with printing := false } := by
  have hrequest : requestOf c' = requestOf c := by
    simp (disch := decide) only [requestOf, h.value?]
  have hany : requestSwitches.any c'.has = requestSwitches.any c.has := by
    simp (disch := decide) only [requestSwitches, List.any_cons, List.any_nil, h.has]
  simp (disch := decide) only [jobOf, h.value?, h.has, hrequest, hany] at hjob
  unfold jobOf
  cases hpath : c.value? "request" with
  | none =>
    simp only [hpath] at hjob ⊢
    obtain rfl := Except.ok.inj hjob
    simp only [h.gone]
  | some path =>
    simp only [hpath] at hjob ⊢
    split_ifs at hjob ⊢
    obtain rfl := Except.ok.inj hjob
    simp only [h.gone]

/-- **The command without the flag** asks for the same job, but that the script is saved. -/
theorem parse_without_print {before behind : List String} {saying : Bool} {job : Job}
    (h : parse (before ++ "--print" :: behind) = .ok (saying, .compile job)) :
    job.printing = true ∧
      parse (before ++ behind) = .ok (saying, .compile { job with printing := false }) := by
  obtain ⟨g, rest, c', hg, hcommand, hc', hjob, hsaying⟩ := parse_eq_compile_iff.mp h
  have hform : formOf "--print" = .long "print" none := rfl
  -- The program itself does not know the flag, so the flag stands behind the command.
  obtain ⟨command, first, hthere, hread⟩ :=
    readWords_unknown rfl (by decide) hform (by decide) hg
  rw [hcommand] at hthere
  obtain ⟨rfl, rfl⟩ := Prod.mk.inj (Option.some.inj hthere)
  have hknown : compileGrammar.switches.find? (fun other => other.name = "print") =
      some ⟨"print", none, .flag⟩ := rfl
  obtain ⟨c, hc, hwithout⟩ :=
    readWords_without (s := ⟨"print", none, .flag⟩) rfl rfl hform hknown rfl hc'
  refine ⟨(printing_jobOf hjob).trans hwithout.there, parse_eq_compile_iff.mpr ?_⟩
  refine ⟨_, _, c, hread, rfl, hc, jobOf_without hwithout hjob, ?_⟩
  have hverbose : c'.has "verbose" = c.has "verbose" := hwithout.has (by decide)
  rw [← hverbose, ← hsaying]
  rfl

/-! ### Taking the request -/

section

variable {source : Source} {w w' : World} {r : Request}

theorem exists_readFile (s : Surroundings) (p : Pathname) :
    ∃ left, (s.readFile p).2 = { s with input := left } := by
  unfold Surroundings.readFile
  split
  · exact ⟨s.input, rfl⟩
  · exact ⟨s.input, rfl⟩
  · exact ⟨s.input, rfl⟩
  · next d _ => cases d <;> exact ⟨_, rfl⟩
  · exact ⟨s.input, rfl⟩

/-- To take the request may use up the input, and changes nothing else. -/
theorem exists_run_request (source : Source) (w : World) :
    ∃ left, ((request source).run w).2 = { w with input := left } := by
  cases source with
  | switches r => exact ⟨w.input, rfl⟩
  | file path =>
    obtain ⟨left, hleft⟩ := exists_readFile w.toSurroundings path
    refine ⟨left, ?_⟩
    have hrun : ((request (.file path)).run w).2 =
        { w with toSurroundings := (w.toSurroundings.readFile path).2 } := by
      rw [request, Document.load, run_map]
      rfl
    rw [hrun, hleft]

/-- A request is taken as it is there, whatever befalls the steps. -/
theorem request_ends (h : (request source).Ends w (.ok r) w') :
    (request source).run w = (.ok r, w') := by
  cases source with
  | switches r' =>
    obtain ⟨hr, rfl⟩ := ends_done_iff.mp h
    rw [hr]
    rfl
  | file path =>
    obtain ⟨text, htext, hr⟩ := ends_map_iff.mp h
    obtain ⟨luck, htext⟩ := ends_step_iff.mp htext
    obtain ⟨rfl, rfl⟩ := ends_done_iff.mp htext
    rw [request, Document.load, run_map]
    cases luck with
    | refused e => simp [World.performWith, Document.textOf] at hr
    | good | short _ | named _ =>
      refine Prod.ext ?_ rfl
      exact hr.symm

end

/-! ### The two programs -/

/-- The program may end so, whatever befalls its steps. -/
def MayEnd (env : Environment) (words : List String) (typed : Octets) (tree : Tree)
    (finish : Finish) (left : Tree) : Prop :=
  ∃ saying job f w, parse words = .ok (saying, .compile job) ∧
    (compile env saying job).Ends (job.world tree typed) f w ∧
    finish = f.after w.errors ∧ left = w.tree

theorem mayEnd_execute {env : Environment} {words : List String} {saying : Bool} {job : Job}
    (hparse : parse words = .ok (saying, .compile job)) (typed : Octets) (tree : Tree) :
    MayEnd env words typed tree (execute env words typed tree).1
      (execute env words typed tree).2 := by
  rw [execute_of_parse hparse]
  exact ⟨saying, job, _, _, hparse, ends_run _ _, rfl, rfl⟩

section

variable {o : Options} {r : Request} {w w' : World} {result : Except CompileError Output}
  {p : Pathname}

theorem savedStatus_inj {p q : Pathname} (h : savedStatus p = savedStatus q) : p = q :=
  congrArg Pathname.mk ((String.append_right_inj _).mp h)

/-- The report that a script has been saved is the report of nothing else. -/
theorem exists_saved_of_status (h : (Report.of result).status = savedStatus p) :
    ∃ script, result = .ok ⟨script, some p⟩ := by
  have hmark : Tool.Marked .saved (savedStatus p) := Tool.marked_append (by simp [Tool.marks]) _
  rw [← h] at hmark
  obtain e | ⟨script, _ | q⟩ := result
  · cases hmark.inj (Tool.marked_status e)
  · have hcancelled : Tool.Marked .unsaved cancelledStatus :=
      Tool.marked_append (by simp [Tool.marks]) _
    cases hmark.inj hcancelled
  · exact ⟨script, by rw [savedStatus_inj h]⟩

/-- A file with this content stands in the tree `t'`, and the path `p` leads to it unless a symbolic
link stood there in the tree `t`. -/
def Stands (t t' : Tree) (p : Pathname) (content : Octets) : Prop :=
  ∃ l, t'.file? l = some content ∧ (t.link? l = none → t'.lookUp p = .ok (.file content))

/-- What is saved stands in the tree, whatever has been done before but to symbolic links. -/
theorem stands_of_savedIn {t : Tree} {before : World} {content : Octets}
    (hlinks : ∀ l, before.tree.link? l = t.link? l) (h : SavedIn before w' p content) :
    Stands t w'.tree p content := by
  obtain ⟨t', place, rfl, hsaved⟩ := h
  refine ⟨place, (hsaved.file? place).trans (if_pos rfl), fun hlink => ?_⟩
  exact hsaved.lookUp ((hlinks place).trans hlink)

/-- A script that is said to be saved stands in the tree. -/
theorem stands_of_saved {script : Artifact}
    (hquiet : ∀ s prompt, (w.picker s prompt).2.tree = s.tree)
    (h : (Compiler.compile o r).Ends w (.ok ⟨script, some p⟩) w') :
    generate o r = .ok script ∧ Stands w.tree w'.tree p (Utf8.encode script.text) := by
  cases compile_ends h with
  | direct hscript _ hmade hsaved _ =>
    obtain ⟨made, rfl, hgrown⟩ := hmade
    exact ⟨hscript, stands_of_savedIn hgrown.link? hsaved⟩
  | chosen hscript hmade _ hsaved =>
    obtain ⟨made, rfl, hgrown⟩ := hmade
    refine ⟨hscript, stands_of_savedIn (fun l => ?_) hsaved⟩
    exact (congrArg (Tree.link? · l) (hquiet _ _)).trans (hgrown.link? l)

end

/-- The picker of the program changes no file. -/
theorem tree_of_asked (job : Job) (tree : Tree) (typed : Octets) (s : Surroundings)
    (prompt : Prompt) : ((job.world tree typed).picker s prompt).2.tree = s.tree := by
  unfold Job.world
  split_ifs
  · rfl
  · rfl

section

variable {env : Environment} {saying : Bool} {job : Job} {w w' : World} {r : Request}
  {e : Document.Error}

/-- A job that prints changes nothing but the input, and asks nobody. -/
theorem exists_run_printing (env : Environment) (saying : Bool) (hprinting : job.printing = true)
    (w : World) :
    ∃ left, ((CompilerProgram.compile env saying job).run w).2 = { w with input := left } := by
  obtain ⟨left, hleft⟩ := exists_run_request job.source w
  refine ⟨left, ?_⟩
  rw [CompilerProgram.compile, run_bind, ← hleft]
  cases ((request job.source).run w).1 with
  | error e => rfl
  | ok r =>
    simp only [hprinting, if_true]
    rfl

/-- A job that changes nothing but the input leaves the tree, and has written no errors before. -/
theorem execute_of_run {words : List String} {typed : Octets} {tree : Tree} {f : Finish}
    (left : Octets) (hparse : parse words = .ok (saying, .compile job))
    (hrun : (CompilerProgram.compile env saying job).run (job.world tree typed) =
      (f, { job.world tree typed with input := left })) :
    execute env words typed tree = (f, tree) := by
  rw [execute_of_parse hparse, hrun]
  have hempty : Utf8.decodeLossy [] ++ f.errors = f.errors := String.empty_append
  exact Prod.ext (congrArg (Finish.mk f.status f.output) hempty) rfl

section

variable {words : List String} {typed left : Octets} {tree : Tree}

/-- A request that cannot be taken is refused, whether the script is to be printed or not. -/
theorem execute_refused (hparse : parse words = .ok (saying, .compile job))
    (h : (request job.source).run (job.world tree typed) =
      (.error e, { job.world tree typed with input := left })) :
    execute env words typed tree = (refused e, tree) := by
  refine execute_of_run left hparse ?_
  rw [CompilerProgram.compile, run_bind, h]
  rfl

/-- A script that is to be printed is generated and printed. -/
theorem execute_printed (hparse : parse words = .ok (saying, .compile job))
    (hprinting : job.printing = true)
    (h : (request job.source).run (job.world tree typed) =
      (.ok r, { job.world tree typed with input := left })) :
    execute env words typed tree = (printed (generate (options env saying job) r), tree) := by
  refine execute_of_run left hparse ?_
  rw [CompilerProgram.compile, run_bind, h]
  simp only [hprinting, if_true]
  rfl

/-- A request that is not to be compiled is reported, and nothing is saved. -/
theorem execute_violation {v : Violation} (hparse : parse words = .ok (saying, .compile job))
    (hprinting : job.printing = false)
    (h : (request job.source).run (job.world tree typed) =
      (.ok r, { job.world tree typed with input := left }))
    (hv : generate (options env saying job) r = .error v) :
    execute env words typed tree = (reported saying (.of (.error (.violation v))), tree) := by
  refine execute_of_run left hparse ?_
  rw [CompilerProgram.compile, run_bind, h]
  simp only [hprinting, Bool.false_eq_true, if_false, run_map, Compiler.run, Compiler.compile, hv]
  rfl

end

theorem line_ne_empty (text : String) : text ++ "\n" ≠ "" := by
  simp

/-- How a job that saves may end, whatever befalls its steps. -/
theorem saving_ends {f : Finish} {v : World} (hprinting : job.printing = false)
    (hends : (CompilerProgram.compile env saying job).Ends w f w')
    (h : (request job.source).run w = (.ok r, v)) :
    (∃ e, f = refused e) ∨ ∃ result,
      (Compiler.compile (options env saying job) r).Ends v result w' ∧
        f = reported saying (.of result) := by
  obtain ⟨taken, u, htaken, hrest⟩ := ends_bind_iff.mp hends
  cases taken with
  | error e =>
    obtain ⟨rfl, rfl⟩ := ends_done_iff.mp hrest
    exact Or.inl ⟨e, rfl⟩
  | ok r' =>
    obtain ⟨hr, rfl⟩ := Prod.mk.inj (h.symm.trans (request_ends htaken))
    obtain rfl := Except.ok.inj hr
    simp only [hprinting, Bool.false_eq_true, if_false] at hrest
    obtain ⟨report, hreport, rfl⟩ := ends_map_iff.mp hrest
    obtain ⟨result, hresult, rfl⟩ := ends_map_iff.mp hreport
    exact Or.inr ⟨result, hresult, rfl⟩

/-- What is said to be saved is the script of the request. -/
theorem stands_of_saving {script : Artifact} {f : Finish} {p : Pathname} {v : World}
    (hprinting : job.printing = false)
    (hquiet : ∀ s prompt, (v.picker s prompt).2.tree = s.tree)
    (hends : (CompilerProgram.compile env saying job).Ends w f w')
    (h : (request job.source).run w = (.ok r, v))
    (hscript : generate (options env saying job) r = .ok script)
    (houtput : f.output = savedStatus p ++ "\n") :
    Stands v.tree w'.tree p (Utf8.encode script.text) := by
  obtain ⟨e, rfl⟩ | ⟨result, hresult, rfl⟩ := saving_ends hprinting hends h
  · exact absurd houtput.symm (line_ne_empty _)
  · have hstatus : (Report.of result).status = savedStatus p :=
      (String.append_left_inj _).mp ((output_reported saying _ []).symm.trans houtput)
    obtain ⟨script', rfl⟩ := exists_saved_of_status hstatus
    obtain ⟨hscript', hstands⟩ := stands_of_saved hquiet hresult
    obtain rfl := Except.ok.inj (hscript.symm.trans hscript')
    exact hstands

/-- Without an error the script is said to be saved, or not to be saved because the operator
declines. -/
theorem output_of_saving {f : Finish} {v : World} (hprinting : job.printing = false)
    (hends : (CompilerProgram.compile env saying job).Ends w f w')
    (h : (request job.source).run w = (.ok r, v)) (hstatus : f.status = 0) :
    f.output = cancelledStatus ++ "\n" ∨ ∃ p, f.output = savedStatus p ++ "\n" := by
  obtain ⟨e, rfl⟩ | ⟨result, -, rfl⟩ := saving_ends hprinting hends h
  · exact nomatch hstatus
  · obtain e | ⟨script, _ | p⟩ := result
    · exact nomatch hstatus
    · exact Or.inl rfl
    · exact Or.inr ⟨p, rfl⟩

end

/-- **Printing shows exactly what saving saves**: words that ask for printing are accepted without
it, and they change no file and ask nobody. Either they print a script and exit with zero, and then
without the flag, whenever the program says that it has saved the script, it has left a file that
holds this script, octet by octet, and the path leads to the file unless it ended at a symbolic
link; this holds whatever befalls the steps, and if the program exits with zero then it says so, or
that the operator has declined. Or there is an error, and then it is one with and without the flag:
the same line is written, about the file of the request that cannot be taken or about the request
itself, the status is one, and no file is changed. -/
theorem print_shows_what_is_saved {env : Environment} {before behind : List String} {saying : Bool}
    {job : Job} (hparse : parse (before ++ "--print" :: behind) = .ok (saying, .compile job))
    (typed : Octets) (tree : Tree) :
    let shown := execute env (before ++ "--print" :: behind) typed tree
    let saved := execute env (before ++ behind) typed tree
    parse (before ++ behind) = .ok (saying, .compile { job with printing := false }) ∧
    shown.2 = tree ∧
    ((CompilerProgram.compile env saying job).run (job.world tree typed)).2.asked = [] ∧
    ((∃ script, shown.1 = ⟨0, script ++ "\n", ""⟩ ∧
        (∀ finish left, MayEnd env (before ++ behind) typed tree finish left →
          (∀ p, finish.output = savedStatus p ++ "\n" →
            ∃ l, left.file? l = some (Utf8.encode script) ∧
              (tree.link? l = none → left.lookUp p = .ok (.file (Utf8.encode script)))) ∧
          (finish.status = 0 → finish.output = cancelledStatus ++ "\n" ∨
            ∃ p, finish.output = savedStatus p ++ "\n"))) ∨
      saved.2 = tree ∧
        ((∃ e, ((request job.source).run (job.world tree typed)).1 = .error e ∧
            shown.1 = ⟨1, "", "widgetc: " ++ ": ".intercalate e.chain ++ "\n"⟩ ∧
            saved.1 = ⟨1, "", "widgetc: " ++ ": ".intercalate e.chain ++ "\n"⟩) ∨
          ∃ v, shown.1 = ⟨1, (CompileError.violation v).status ++ "\n", ""⟩ ∧
            saved.1 = ⟨1, (CompileError.violation v).status ++ "\n",
              if saying then "error kind: " ++ v.kind ++ "\n" else ""⟩)) := by
  obtain ⟨hprinting, hsaving⟩ := parse_without_print hparse
  obtain ⟨left, hleft⟩ := exists_run_request job.source (job.world tree typed)
  obtain ⟨after, hafter⟩ := exists_run_printing env saying hprinting (job.world tree typed)
  intro shown saved
  have hkept : shown.2 = tree := by
    rw [show shown = _ from execute_of_parse hparse typed tree, hafter]
    rfl
  refine ⟨hsaving, hkept, by rw [hafter]; rfl, ?_⟩
  cases htaken : ((request job.source).run (job.world tree typed)).1 with
  | error e =>
    have hrequest := Prod.ext (y := (_, _)) htaken hleft
    have hshown : shown = (refused e, tree) := execute_refused hparse hrequest
    have hsaved : saved = (refused e, tree) := execute_refused hsaving hrequest
    rw [hshown, hsaved]
    exact Or.inr ⟨rfl, Or.inl ⟨e, rfl, rfl, rfl⟩⟩
  | ok r =>
    have hrequest := Prod.ext (y := (_, _)) htaken hleft
    have hshown : shown = _ := execute_printed hparse hprinting hrequest
    rw [hshown]
    cases hscript : generate (options env saying job) r with
    | error v =>
      have hsaved : saved = _ := execute_violation hsaving rfl hrequest hscript
      rw [hsaved]
      exact Or.inr ⟨rfl, Or.inr ⟨v, rfl, rfl⟩⟩
    | ok script =>
      refine Or.inl ⟨script.text, rfl, ?_⟩
      rintro finish final ⟨saying', job', f, w, hagain, hends, rfl, rfl⟩
      obtain ⟨rfl, hjob⟩ := Prod.mk.inj (Except.ok.inj (hsaving.symm.trans hagain))
      obtain rfl := Command.compile.inj hjob
      refine ⟨fun p => ?_, output_of_saving (f := f) rfl hends hrequest⟩
      exact stands_of_saving (f := f) (v := { job.world tree typed with input := left }) rfl
        (tree_of_asked job tree typed) hends hrequest hscript

/-- The words that ask to compile a request that passes the check, into a folder at the root. -/
def clockWords : List String :=
  ["--command", clock.command, "--positioning", clock.positioning, "--markup", clock.markup,
    "--output-dir", "/widgets", "--no-prompt"]

/-- The job of these words. -/
def clockJob (printing : Bool) : Job :=
  ⟨.switches clock, some ⟨"/widgets"⟩, defaultFileName, false, printing, false⟩

/-- A user. -/
def someone : Environment := ⟨some ⟨"/home"⟩, none⟩

theorem fate_clock (script : Artifact) :
    ((persist (some ⟨"/widgets"⟩) defaultFileName script).run (quiet ⟨[], []⟩ [])).1 =
      .saved ⟨"/widgets/index.jsx"⟩ := by
  have hmade : (makeFolders ⟨"/widgets"⟩).run (quiet ⟨[], []⟩ []) = (.ok (), _) :=
    Prod.ext (y := (_, _)) rfl rfl
  rw [run_persist, run_saveDirect_of_ok hmade]
  rfl

theorem exists_generate_clock :
    ∃ script, generate (options someone false (clockJob false)) clock = .ok script := by
  have hcheck : clock.check = .ok () := by rfl
  exact ⟨_, by simp only [generate, hcheck, options, clockJob, Bool.false_eq_true, if_false]; rfl⟩

theorem output_clock {words : List String}
    (hparse : parse words = .ok (false, .compile (clockJob false))) :
    (execute someone words [] ⟨[], []⟩).1.output = savedStatus ⟨"/widgets/index.jsx"⟩ ++ "\n" := by
  obtain ⟨script, hscript⟩ := exists_generate_clock
  have hrequest : (request (clockJob false).source).run ((clockJob false).world ⟨[], []⟩ []) =
      (.ok clock, quiet ⟨[], []⟩ []) := rfl
  have hfate : ((persist (options someone false (clockJob false)).folder
      (options someone false (clockJob false)).fileName script).run (quiet ⟨[], []⟩ [])).1 =
      .saved ⟨"/widgets/index.jsx"⟩ := fate_clock script
  rw [execute_of_job hparse rfl hrequest, output_reported, Compiler.run, Compiler.compile, hscript]
  simp only [run_map, hfate]
  rfl

theorem print_shows_what_is_saved_clock :
    parse (["compile"] ++ "--print" :: clockWords) = .ok (false, .compile (clockJob true)) ∧
    ∃ script,
      execute someone (["compile"] ++ "--print" :: clockWords) [] ⟨[], []⟩ =
        (⟨0, script ++ "\n", ""⟩, ⟨[], []⟩) ∧
      (execute someone (["compile"] ++ clockWords) [] ⟨[], []⟩).2.lookUp
        ⟨"/widgets/index.jsx"⟩ = .ok (.file (Utf8.encode script)) := by
  have hparse : parse (["compile"] ++ "--print" :: clockWords) =
      .ok (false, .compile (clockJob true)) := rfl
  refine ⟨hparse, ?_⟩
  obtain ⟨hsaving, htree, -, ⟨script, hshown, hall⟩ | ⟨-, hfailed⟩⟩ :=
    @print_shows_what_is_saved someone _ _ _ _ hparse [] ⟨[], []⟩
  · have hsaved := (hall _ _ (mayEnd_execute hsaving [] ⟨[], []⟩)).1
    obtain ⟨l, -, hlookUp⟩ := hsaved _ (output_clock hsaving)
    exact ⟨script, Prod.ext hshown htree, hlookUp (by cases l <;> rfl)⟩
  · have hstatus : (execute someone (["compile"] ++ "--print" :: clockWords) []
        ⟨[], []⟩).1.status = 0 := by decide +kernel
    rcases hfailed with ⟨e, -, he, -⟩ | ⟨v, hv, -⟩
    · rw [he] at hstatus
      exact nomatch hstatus
    · rw [hv] at hstatus
      exact nomatch hstatus

end WidgetForge.CommandLine.CompilerProgram
