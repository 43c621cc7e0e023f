import WidgetForge.Proofs.Compiler.Effects
import WidgetForge.Proofs.Tool.Compile

/-!
# What the text of an output tells

An agent is handed one text for each call, and much in it is not in the hands of the host: names of
tools and of style variables, paths, wordings of the operating system and of pickers. Still the text
tells how the call has ended. For each way to end there is a mark with which the text begins
(`marks`), and no mark is a beginning of another one, so whatever comes after a mark cannot make one
outcome look like another.
-/

namespace WidgetForge.Tool

open Compiler Json Procedure Widget

/-- How a call ends, as far as it matters to an agent. -/
inductive Outcome where
  /-- A script is generated and saved. -/
  | saved
  /-- A script is generated, and the operator declines to save it. -/
  | unsaved
  /-- A total length is reported. -/
  | counted
  /-- There is an error of this kind. -/
  | failed (kind : String)
  deriving DecidableEq

/-- The kind of the error, if there is one. -/
def Outcome.kind? : Outcome → Option String
  | .failed kind => some kind
  | _ => none

/-- `Comes o w name arguments outcome output w'`: in the world `w`, a call of the tool `name` of a
standard registry may end with the output `output` in the world `w'`, and this is its outcome. -/
inductive Comes (o : Options) (w : World) : String → Value → Outcome → Output → World → Prop
  /-- There is no tool of this name. -/
  | unknown {name : String} {arguments : Value} :
      name ≠ compileName → name ≠ TotalLength.tool.name →
      Comes o w name arguments (.failed "unknown_tool") (.failed (.unknown name)) w
  /-- The arguments are not those of the compiler. -/
  | misfit {arguments : Value} {m : Mismatch} : Request.ofValue arguments = .error m →
      Comes o w compileName arguments (.failed "invalid_arguments")
        (.failed (.arguments compileName m.error)) w
  /-- The script has been saved. -/
  | saved {arguments : Value} {r : Request} {script : Artifact} {path : Disk.Pathname}
      {w' : World} : Request.ofValue arguments = .ok r →
      (Compiler.compile o r).Ends w (.ok ⟨script, some path⟩) w' →
      Comes o w compileName arguments .saved ⟨savedStatus path, none⟩ w'
  /-- The operator has declined. -/
  | unsaved {arguments : Value} {r : Request} {script : Artifact} {w' : World} :
      Request.ofValue arguments = .ok r →
      (Compiler.compile o r).Ends w (.ok ⟨script, none⟩) w' →
      Comes o w compileName arguments .unsaved ⟨cancelledStatus, none⟩ w'
  /-- The compiler has failed. -/
  | failed {arguments : Value} {r : Request} {e : CompileError} {w' : World} :
      Request.ofValue arguments = .ok r → (Compiler.compile o r).Ends w (.error e) w' →
      Comes o w compileName arguments (.failed e.kind) (.failed (.compile e)) w'
  /-- The arguments are not strings. -/
  | notStrings {arguments : Value} {m : Mismatch} : TotalLength.ofValue arguments = .error m →
      Comes o w TotalLength.tool.name arguments (.failed "invalid_arguments")
        (.failed (.arguments TotalLength.tool.name m.error)) w
  /-- The lengths have been added up. -/
  | counted {arguments : Value} {strings : List String} :
      TotalLength.ofValue arguments = .ok strings →
      Comes o w TotalLength.tool.name arguments .counted ⟨TotalLength.report strings, none⟩ w

section

variable {o : Options} {name : String} {arguments : Value} {w w' : World} {outcome : Outcome}
  {output : Output}

/-- There is an error exactly if the outcome says so, and of the kind that it says. -/
theorem Comes.kind (h : Comes o w name arguments outcome output w') :
    output.error.map Error.kind = outcome.kind? := by
  cases h <;> rfl

/-! ### Every call comes to an outcome -/

theorem exists_comes_compile {result : Result}
    (h : ((compile o).call arguments).Ends w result w') :
    ∃ outcome output, result.output = .ok output ∧
      Comes o w compileName arguments outcome output w' := by
  simp only [compile] at h
  cases hrequest : Request.ofValue arguments with
  | error m =>
    simp only [hrequest] at h
    obtain ⟨rfl, rfl⟩ := ends_done_iff.mp h
    exact ⟨_, _, rfl, .misfit hrequest⟩
  | ok r =>
    simp only [hrequest, Compiler.run] at h
    obtain ⟨report, hreport, rfl⟩ := ends_map_iff.mp h
    obtain ⟨compiled, hcompiled, rfl⟩ := ends_map_iff.mp hreport
    obtain e | ⟨script, _ | path⟩ := compiled
    · exact ⟨_, _, rfl, .failed hrequest hcompiled⟩
    · exact ⟨_, _, rfl, .unsaved hrequest hcompiled⟩
    · exact ⟨_, _, rfl, .saved hrequest hcompiled⟩

theorem exists_comes_total {result : Result}
    (h : (TotalLength.tool.call arguments).Ends w result w') :
    ∃ outcome output, result.output = .ok output ∧
      Comes o w TotalLength.tool.name arguments outcome output w' := by
  simp only [TotalLength.tool] at h
  obtain ⟨rfl, rfl⟩ := ends_done_iff.mp h
  cases hstrings : TotalLength.ofValue arguments with
  | error m => exact ⟨_, _, rfl, .notStrings hstrings⟩
  | ok strings => exact ⟨_, _, rfl, .counted hstrings⟩

/-- No call of a standard registry crashes, and each comes to an outcome. -/
theorem exists_comes {ended : Except String Output}
    (h : ((Registry.standard o).dispatch name arguments).Ends w ended w') :
    ∃ outcome output, ended = .ok output ∧ Comes o w name arguments outcome output w' := by
  obtain ⟨result, hresult, rfl⟩ := ends_map_iff.mp h
  unfold Registry.call at hresult
  by_cases hcompile : name = compileName
  · subst hcompile
    rw [Registry.get?_standard] at hresult
    exact exists_comes_compile hresult
  by_cases htotal : name = TotalLength.tool.name
  · subst htotal
    rw [Registry.get?_standard_total] at hresult
    exact exists_comes_total hresult
  · rw [Registry.get?_standard_other o hcompile htotal] at hresult
    obtain ⟨rfl, rfl⟩ := ends_done_iff.mp hresult
    exact ⟨_, _, rfl, .unknown hcompile htotal⟩

end

/-! ### Marks -/

/-- How the message of each kind of error of the compiler begins. -/
def messageMarks : List (String × String) :=
  [("Bash command cannot be empty", "empty_command"),
    ("Refresh frequency must be greater than 0", "invalid_refresh_frequency"),
    ("Markup content cannot be empty", "empty_markup"),
    ("CSS positioning cannot be empty", "empty_positioning"),
    ("Style variable '", "unreferenced_style_variable"),
    ("Could not write widget to ", "direct_write_failed"),
    ("File save operation cancelled by user", "fallback_cancelled"),
    ("Error writing file ", "fallback_write_failed"),
    ("Destination picker failed: ", "picker_failed"),
    ("Unexpected error: ", "unexpected")]

/-- How the text of each outcome begins. -/
def marks : List (List Char × Outcome) :=
  [("Widget JSX script generated and saved to ".toList, .saved),
    ("Widget JSX script generated but not saved: ".toList, .unsaved),
    ("Total length of all strings: ".toList, .counted),
    ("Unknown tool: ".toList, .failed "unknown_tool"),
    ("Invalid arguments for ".toList, .failed "invalid_arguments")] ++
  messageMarks.map fun entry =>
    ("Widget generation failed: ".toList ++ entry.1.toList, .failed entry.2)

/-- No mark is a beginning of another one. -/
theorem marks_prefix_free : ∀ m ∈ marks, ∀ m' ∈ marks, m.1 <+: m'.1 → m = m' := by
  decide +kernel

/-- The text begins with the mark of the outcome. -/
def Marked (outcome : Outcome) (text : String) : Prop :=
  ∃ mark, (mark, outcome) ∈ marks ∧ mark <+: text.toList

/-- A text has the mark of one outcome at most. -/
theorem Marked.inj {outcome outcome' : Outcome} {text : String} (h : Marked outcome text)
    (h' : Marked outcome' text) : outcome = outcome' := by
  obtain ⟨mark, hmem, hprefix⟩ := h
  obtain ⟨mark', hmem', hprefix'⟩ := h'
  rcases List.prefix_or_prefix_of_prefix hprefix hprefix' with hle | hle
  · exact congrArg Prod.snd (marks_prefix_free _ hmem _ hmem' hle)
  · exact (congrArg Prod.snd (marks_prefix_free _ hmem' _ hmem hle)).symm

theorem marked_append {mark : String} {outcome : Outcome} (h : (mark.toList, outcome) ∈ marks)
    (rest : String) : Marked outcome (mark ++ rest) :=
  ⟨mark.toList, h, by rw [String.toList_append]; exact List.prefix_append _ _⟩

theorem append_append_append (a b c d : String) : a ++ b ++ c ++ d = a ++ (b ++ (c ++ d)) := by
  rw [String.append_assoc, String.append_assoc]

theorem exists_mark_of_violation (v : Violation) :
    ∃ mark rest, (mark, v.kind) ∈ messageMarks ∧ v.message = mark ++ rest := by
  cases v with
  | emptyCommand =>
    exact ⟨"Bash command cannot be empty", "", by simp [messageMarks, Violation.kind], rfl⟩
  | intervalNotPositive =>
    exact ⟨"Refresh frequency must be greater than 0", "", by simp [messageMarks, Violation.kind],
      rfl⟩
  | emptyMarkup =>
    exact ⟨"Markup content cannot be empty", "", by simp [messageMarks, Violation.kind], rfl⟩
  | emptyPositioning =>
    exact ⟨"CSS positioning cannot be empty", "", by simp [messageMarks, Violation.kind], rfl⟩
  | unusedStyle name =>
    exact ⟨"Style variable '", _, by simp [messageMarks, Violation.kind], String.append_assoc⟩

theorem exists_mark_of_save (e : SaveError) :
    ∃ mark rest, (mark, e.kind) ∈ messageMarks ∧ e.message = mark ++ rest := by
  cases e with
  | direct path cause =>
    exact ⟨"Could not write widget to ", _, by simp [messageMarks, SaveError.kind],
      append_append_append _ _ _ _⟩
  | cancelled =>
    exact ⟨"File save operation cancelled by user", "", by simp [messageMarks, SaveError.kind], rfl⟩
  | chosen path cause =>
    exact ⟨"Error writing file ", _, by simp [messageMarks, SaveError.kind],
      append_append_append _ _ _ _⟩
  | picker cause =>
    exact ⟨"Destination picker failed: ", _, by simp [messageMarks, SaveError.kind], rfl⟩

/-- The message of an error of the compiler begins as its kind has it. -/
theorem exists_mark_of_compile (e : CompileError) :
    ∃ mark rest, (mark, e.kind) ∈ messageMarks ∧ e.message = mark ++ rest := by
  cases e with
  | violation v => exact exists_mark_of_violation v
  | save e => exact exists_mark_of_save e
  | unexpected text =>
    exact ⟨"Unexpected error: ", text, by simp [messageMarks, CompileError.kind], rfl⟩

theorem prefix_append_append (a b c : String) :
    a.toList ++ b.toList <+: (a ++ (b ++ c)).toList := by
  rw [String.toList_append, String.toList_append]
  exact (List.prefix_append_right_inj _).mpr (List.prefix_append _ _)

/-- The line of an error of the compiler begins with the mark of its kind. -/
theorem marked_status (e : CompileError) : Marked (.failed e.kind) e.status := by
  obtain ⟨mark, rest, hmem, hmessage⟩ := exists_mark_of_compile e
  have hstatus : e.status = "Widget generation failed: " ++ (mark ++ rest) :=
    congrArg ("Widget generation failed: " ++ ·) hmessage
  refine ⟨"Widget generation failed: ".toList ++ mark.toList, ?_, ?_⟩
  · exact List.mem_append_right _ (List.mem_map.mpr ⟨(mark, e.kind), hmem, rfl⟩)
  · exact hstatus ▸ prefix_append_append _ mark rest

theorem marked_arguments (name : String) (cause : Json.Error) :
    Marked (.failed "invalid_arguments") (Error.arguments name cause).message := by
  have hmessage : (Error.arguments name cause).message =
      "Invalid arguments for " ++ (name ++ (": " ++ cause.message)) :=
    append_append_append _ _ _ _
  exact hmessage ▸ marked_append (by simp [marks]) _

/-- What a call tells begins with the mark of its outcome. -/
theorem Comes.marked {o : Options} {name : String} {arguments : Value} {w w' : World}
    {outcome : Outcome} {output : Output} (h : Comes o w name arguments outcome output w') :
    Marked outcome output.text := by
  cases h with
  | unknown => exact marked_append (by simp [marks]) name
  | misfit => exact marked_arguments _ _
  | saved => exact marked_append (by simp [marks]) _
  | unsaved => exact marked_append (by simp [marks]) _
  | failed => exact marked_status _
  | notStrings => exact marked_arguments _ _
  | counted => exact marked_append (by simp [marks]) _

/-- **The text tells the outcome**: two calls of standard registries, of whatever tools with
whatever arguments and options and in whatever worlds, end with outputs, and each output has one
outcome. If the texts are the same, then either there is no error in both cases and the outcomes are
the same, or there are errors of one kind. -/
theorem text_tells_outcome {o o' : Options} {name name' : String} {arguments arguments' : Value}
    {w w' v v' : World} {ended ended' : Except String Output}
    (h : ((Registry.standard o).dispatch name arguments).Ends w ended v)
    (h' : ((Registry.standard o').dispatch name' arguments').Ends w' ended' v') :
    ∃ output output' outcome outcome', ended = .ok output ∧ ended' = .ok output' ∧
      (∀ other, Comes o w name arguments other output v ↔ other = outcome) ∧
      (∀ other, Comes o' w' name' arguments' other output' v' ↔ other = outcome') ∧
      (output.text = output'.text →
        (output.error = none ∧ output'.error = none ∧ outcome = outcome') ∨
        ∃ e e', output.error = some e ∧ output'.error = some e' ∧ e.kind = e'.kind) := by
  obtain ⟨outcome, output, rfl, hcomes⟩ := exists_comes h
  obtain ⟨outcome', output', rfl, hcomes'⟩ := exists_comes h'
  refine ⟨output, output', outcome, outcome', rfl, rfl, fun other => ⟨fun hother => ?_, ?_⟩,
    fun other => ⟨fun hother => ?_, ?_⟩, fun htext => ?_⟩
  · exact hother.marked.inj hcomes.marked
  · rintro rfl
    exact hcomes
  · exact hother.marked.inj hcomes'.marked
  · rintro rfl
    exact hcomes'
  · have hsame : outcome = outcome' := hcomes.marked.inj (htext ▸ hcomes'.marked)
    have hkind := hcomes.kind
    have hkind' := hcomes'.kind
    rw [← hsame] at hkind'
    cases herror : output.error with
    | none =>
      rw [herror, Option.map_none] at hkind
      rw [← hkind, Option.map_eq_none_iff] at hkind'
      exact Or.inl ⟨rfl, hkind', hsame⟩
    | some e =>
      rw [herror, Option.map_some] at hkind
      rw [← hkind, Option.map_eq_some_iff] at hkind'
      obtain ⟨e', he', hkinds⟩ := hkind'
      exact Or.inr ⟨e, e', rfl, he', hkinds.symm⟩

/-- Options without a widgets folder. -/
def homeless : Options := { plain with folder := none }

/-- A request that differs from `clock` in its command. -/
def load : Request := { clock with command := "uptime" }

theorem text_tells_outcome_declined :
    ∃ output output' outcome outcome',
      (((Registry.standard homeless).dispatch compileName clock.toValue).run bare).1 =
        .ok output ∧
      (((Registry.standard homeless).dispatch compileName load.toValue).run bare).1 =
        .ok output' ∧
      Comes homeless bare compileName clock.toValue outcome output
        (((Registry.standard homeless).dispatch compileName clock.toValue).run bare).2 ∧
      Comes homeless bare compileName load.toValue outcome' output'
        (((Registry.standard homeless).dispatch compileName load.toValue).run bare).2 ∧
      output.text = output'.text ∧ output.error = none ∧ outcome = outcome' := by
  obtain ⟨output, output', outcome, outcome', hended, hended', hcomes, hcomes', htells⟩ :=
    text_tells_outcome
      (ends_run ((Registry.standard homeless).dispatch compileName clock.toValue) bare)
      (ends_run ((Registry.standard homeless).dispatch compileName load.toValue) bare)
  have hdeclined : ∀ r ∈ [clock, load],
      (((Registry.standard homeless).dispatch compileName r.toValue).run bare).1.toOption.map
        (fun output => (output.text, output.error.isNone)) = some (cancelledStatus, true) := by
    decide +kernel
  have hclock := hdeclined clock (by simp)
  have hload := hdeclined load (by simp)
  rw [hended] at hclock
  rw [hended'] at hload
  obtain ⟨htext, hnone⟩ := Prod.mk.inj (Option.some.inj hclock)
  obtain ⟨htext', -⟩ := Prod.mk.inj (Option.some.inj hload)
  refine ⟨output, output', outcome, outcome', hended, hended', (hcomes _).mpr rfl,
    (hcomes' _).mpr rfl, htext.trans htext'.symm, Option.isNone_iff_eq_none.mp hnone, ?_⟩
  rcases htells (htext.trans htext'.symm) with ⟨-, -, hsame⟩ | ⟨e, -, he, -⟩
  · exact hsame
  · simp [he] at hnone

end WidgetForge.Tool
