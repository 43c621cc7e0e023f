import WidgetForge.Proofs.CommandLine.CompileJob
import WidgetForge.Proofs.Compiler.Again
import WidgetForge.Proofs.Text.OneLine

/-!
# When the outcome is reported in one line

The outcome of a request is put together from fixed words, from the path where the script was to go,
from what the picker says, and from the request. Errors of saving are one line each, for they show
paths in quotes. So if neither the options nor the picker bring a line break in, only the request
can, and of all its texts only one is ever shown: the name of a style variable that a strict
compiler finds unused. This name is shown as it is, without quotes. It decides alone whether the
outcome is one line, and so whether the program prints one line.
-/

namespace WidgetForge

open Disk Operator Text Widget

/-! ### Saving -/

namespace Disk

theorem Tree.oneLine_of_tempFolder {t : Tree} {folder : Pathname} {e : IoError}
    (h : t.tempFolder folder = .error e) : OneLine e.message := by
  unfold tempFolder at h
  split_ifs at h
  · obtain rfl := Except.error.inj h
    exact oneLine_of_octets rfl
  · obtain rfl := Except.error.inj h
    exact OsError.oneLine_message _
  · split at h
    · obtain rfl := Except.error.inj h
      exact OsError.oneLine_message _
    · split at h
      · obtain rfl := Except.error.inj h
        exact OsError.oneLine_message _
      · obtain rfl := Except.error.inj h
        exact OsError.oneLine_message _
      · exact nomatch h
      · obtain rfl := Except.error.inj h
        exact OsError.oneLine_message _

/-- A file is moved, or the operating system tells why not. -/
theorem Tree.exists_of_rename {t : Tree} {source : Location} {p : Pathname} {e : IoError}
    (h : t.rename source p = .error e) : ∃ number, e = .os number := by
  unfold rename at h
  repeat' split at h
  all_goals first
    | exact ⟨_, (Except.error.inj h).symm⟩
    | exact nomatch h

/-- **Why a file cannot be saved is told in one line**, whatever its path is. -/
theorem Tree.oneLine_of_saved {t : Tree} {p : Pathname} {content : Octets} {e : IoError}
    (h : t.saved p content = .error e) : OneLine e.message := by
  unfold saved at h
  cases hfolder : t.tempFolder p.folder with
  | error cause =>
    rw [createTemp_of_tempFolder_error hfolder] at h
    obtain rfl := Except.error.inj h
    simp only [tempError, IoError.message, oneLine_append]
    exact ⟨⟨oneLine_of_tempFolder hfolder, oneLine_of_octets rfl⟩, oneLine_quoted _⟩
  | ok folder =>
    obtain ⟨temp, -, -, hcreate⟩ := createTemp_of_tempFolder hfolder
    rw [hcreate] at h
    obtain ⟨number, rfl⟩ := exists_of_rename h
    exact number.oneLine_message

theorem Pathname.oneLine_join {p : Pathname} {next : String} (hp : OneLine p.text)
    (hnext : OneLine next) : OneLine (p.join next).text := by
  have hslash : OneLine "/" := oneLine_of_octets rfl
  unfold join
  split_ifs
  · exact hnext
  · exact oneLine_append.mpr ⟨hp, hnext⟩
  · exact oneLine_append.mpr ⟨oneLine_append.mpr ⟨hp, hslash⟩, hnext⟩

end Disk

/-! ### Reports -/

/-- An answer that shows no line break. -/
def Operator.Answer.IsOneLine : Answer → Prop
  | .error e => OneLine e.message
  | .ok none => True
  | .ok (some p) => OneLine p.text

namespace Compiler

open Procedure

/-- What surrounds a request brings no line break into its report: the folder and the file name have
none, and the picker says nothing that has one, wherever the script could not be saved. -/
structure Unbroken (o : Options) (w : World) : Prop where
  folder : ∀ top, o.folder = some top → OneLine top.text
  fileName : OneLine o.fileName
  answer : ∀ t, ((w.withTree t).answer (promptFor o.folder o.fileName)).IsOneLine

/-- A violation shows a text of the request only if this is the name of an unused variable. -/
theorem oneLine_violation_iff {v : Violation} :
    OneLine v.message ↔ ∀ name, v = .unusedStyle name → OneLine name := by
  cases v with
  | unusedStyle name =>
    have hbefore : OneLine "Style variable '" := oneLine_of_octets rfl
    have hbehind : OneLine "' is declared but never referenced in the markup" :=
      oneLine_of_octets rfl
    have hshown : OneLine (Violation.unusedStyle name).message ↔ OneLine name :=
      oneLine_append.trans ((and_iff_left hbehind).trans
        (oneLine_append.trans (and_iff_right hbefore)))
    rw [hshown]
    exact ⟨fun h _ heq => Violation.unusedStyle.inj heq ▸ h, fun h => h name rfl⟩
  | emptyCommand | intervalNotPositive | emptyMarkup | emptyPositioning =>
    exact ⟨fun _ => nofun, fun _ => oneLine_of_octets rfl⟩

theorem oneLine_status_iff {e : CompileError} : OneLine e.status ↔ OneLine e.message := by
  have hbefore : OneLine "Widget generation failed: " := oneLine_of_octets rfl
  exact oneLine_append.trans (and_iff_right hbefore)

theorem oneLine_savedStatus_iff {p : Pathname} : OneLine (savedStatus p) ↔ OneLine p.text := by
  have hbefore : OneLine "Widget JSX script generated and saved to " := oneLine_of_octets rfl
  exact oneLine_append.trans (and_iff_right hbefore)

theorem oneLine_picker {cause : IoError} (h : OneLine cause.message) :
    OneLine (SaveError.picker cause).message := by
  have hbefore : OneLine "Destination picker failed: " := oneLine_of_octets rfl
  exact oneLine_append.mpr ⟨hbefore, h⟩

theorem oneLine_chosen {p : Pathname} {cause : IoError} (hp : OneLine p.text)
    (h : OneLine cause.message) : OneLine (SaveError.chosen p cause).message := by
  have hbefore : OneLine "Error writing file " := oneLine_of_octets rfl
  have hbehind : OneLine ": " := oneLine_of_octets rfl
  have hplace := oneLine_append.mpr ⟨oneLine_append.mpr ⟨hbefore, hp⟩, hbehind⟩
  exact oneLine_append.mpr ⟨hplace, h⟩

section

variable {folder : Option Pathname} {fileName : String} {content : Octets} {w : World}

/-- What becomes of a script where the operator says is told in one line, if the answer is. -/
theorem oneLine_saveChosen (script : Artifact)
    (h : (w.answer (promptFor folder fileName)).IsOneLine) : OneLine
      (Report.of (Output.of script ((saveChosen folder fileName content).run w).1)).status := by
  rw [run_saveChosen]
  cases hanswer : w.answer (promptFor folder fileName) with
  | error e =>
    rw [hanswer] at h
    exact oneLine_status_iff.mpr (oneLine_picker h)
  | ok answer =>
    cases answer with
    | none =>
      have hcancelled : OneLine cancelledStatus := oneLine_of_octets rfl
      exact hcancelled
    | some p =>
      rw [hanswer] at h
      dsimp only
      cases hsaved : (w.answered (promptFor folder fileName)).tree.saved p content with
      | ok t => exact oneLine_savedStatus_iff.mpr h
      | error e => exact oneLine_status_iff.mpr (oneLine_chosen h (Tree.oneLine_of_saved hsaved))

end

section

variable {o : Options} {r : Request} {w : World}

/-- What becomes of a script is told in one line. -/
theorem oneLine_persist (h : Unbroken o w) (script : Artifact) :
    OneLine (Report.of (Output.of script
      ((persist o.folder o.fileName script).run w).1)).status := by
  have hends := saveDirect_ends
    (ends_run (saveDirect o.folder o.fileName (Utf8.encode script.text)) w)
  rw [run_persist]
  rcases hdirect : (saveDirect o.folder o.fileName (Utf8.encode script.text)).run w with
    ⟨e | p, made⟩
  · rw [hdirect] at hends
    obtain ⟨made', ⟨t, rfl, -⟩, ⟨top, -, hok, -⟩ | ⟨-, rfl⟩⟩ := hends
    · exact nomatch hok
    · exact oneLine_saveChosen script (h.answer t)
  · rw [hdirect] at hends
    obtain ⟨-, -, ⟨top, htop, hp, -⟩ | ⟨⟨e, he⟩, -⟩⟩ := hends
    · obtain rfl := Except.ok.inj hp
      exact oneLine_savedStatus_iff.mpr (Pathname.oneLine_join (h.folder top htop) h.fileName)
    · exact nomatch he

/-- Only the name of an unused style variable can break the report of a request. -/
theorem oneLine_run_iff (h : Unbroken o w) : OneLine ((run o r).run w).1.status ↔
    ∀ name, generate o r = .error (.unusedStyle name) → OneLine name := by
  rw [run, run_map]
  unfold compile
  cases hscript : generate o r with
  | error v =>
    refine oneLine_status_iff.trans (oneLine_violation_iff.trans ?_)
    simp only [Except.error.injEq]
  | ok script =>
    simp only [run_map]
    exact ⟨fun _ => nofun, fun _ => oneLine_persist h script⟩

/-- A compiler that is not strict finds no style variable unused. -/
theorem generate_ne_unusedStyle (hstrict : o.strict = false) (name : String) :
    generate o r ≠ .error (.unusedStyle name) := by
  unfold generate Request.check
  simp only [hstrict, Bool.false_eq_true, if_false]
  split_ifs <;> simp

end

/-! ### The program -/

open CommandLine.CompilerProgram (Job execute execute_of_job options output_reported parse request)

/-- **When the outcome is reported in one line**: if neither the options nor the picker bring in a
line break, the report of a request is one line unless it shows the name of an unused style variable
that has one, which a compiler that is not strict never does. The program on the command line prints
this report and a line feed, wherever it takes the request from and whether it may ask or not. -/
theorem status_is_one_line_iff {o : Options} {r : Request} {w : World} (h : Unbroken o w) :
    (OneLine ((run o r).run w).1.status ↔
      ∀ name, generate o r = .error (.unusedStyle name) → OneLine name) ∧
    (o.strict = false → OneLine ((run o r).run w).1.status) ∧
    ∀ env words saying job tree typed, parse words = .ok (saying, .compile job) →
      job.printing = false → options env saying job = o →
      (request job.source).run (job.world tree typed) = (.ok r, w) →
      (execute env words typed tree).1.output = ((run o r).run w).1.status ++ "\n" := by
  refine ⟨oneLine_run_iff h, fun hstrict => ?_, ?_⟩
  · refine (oneLine_run_iff h).mpr fun name hname => ?_
    exact absurd hname (generate_ne_unusedStyle hstrict name)
  · rintro env words saying job tree typed hparse hprinting rfl hrequest
    rw [execute_of_job hparse hprinting hrequest]
    exact output_reported _ _ _

/-- A name that ends a line and writes another one. -/
def posingName : String :=
  "a' is unused\nWidget JSX script generated and saved to /widgets/index.jsx\n"

/-- A request whose only style variable has this name. -/
def posing : Request :=
  { clock with
    styles := "\x7b\"a' is unused\\nWidget JSX script generated and saved to " ++
      "/widgets/index.jsx\\n\": \"\"\x7d" }

/-- The words that ask for this request, and not to ask the operator. -/
def posingWords (strict : Bool) : List String :=
  ["compile", "--command", posing.command, "--refresh", "1000", "--positioning",
    posing.positioning, "--markup", posing.markup, "--styles", posing.styles, "--no-prompt"] ++
    if strict then ["--strict-styles"] else []

/-- The job of these words. -/
def posingJob (strict : Bool) : Job :=
  ⟨.switches posing, none, defaultFileName, strict, false, false⟩

/-- The user whose home is at the root. -/
def user : Environment := ⟨some ⟨"/home"⟩, none⟩

theorem parse_posingWords (strict : Bool) :
    parse (posingWords strict) = .ok (false, .compile (posingJob strict)) := by
  cases strict <;> rfl

theorem generate_posing : generate (options user false (posingJob true)) posing =
    .error (.unusedStyle posingName) := by
  have hcheck : posing.check = .ok () := by rfl
  have hunused : (StyleMapping.parse posing.styles).firstUnused posing.markup =
      some posingName := by decide +kernel
  simp only [generate, hcheck, options, posingJob, if_true, hunused]

theorem status_is_one_line_iff_posing :
    Unbroken (options user false (posingJob false)) bare ∧
    (execute user (posingWords false) [] ⟨[], []⟩).1.output =
      ((run (options user false (posingJob false)) posing).run bare).1.status ++ "\n" ∧
    OneLine ((run (options user false (posingJob false)) posing).run bare).1.status ∧
    ¬ OneLine ((run (options user false (posingJob true)) posing).run bare).1.status := by
  have hunbroken (strict : Bool) : Unbroken (options user false (posingJob strict)) bare := by
    have hname : OneLine defaultFileName := oneLine_of_octets rfl
    refine ⟨?_, hname, fun t => trivial⟩
    rintro top ⟨⟩
    exact oneLine_of_octets rfl
  obtain ⟨-, hlenient, hprinted⟩ := @status_is_one_line_iff _ posing _ (hunbroken false)
  have houtput := hprinted user _ false _ _ [] (parse_posingWords false) rfl rfl rfl
  refine ⟨hunbroken false, houtput, hlenient rfl, ?_⟩
  intro hline
  have hname := (status_is_one_line_iff (hunbroken true)).1.mp hline posingName generate_posing
  exact absurd hname (by decide +kernel)

/-- **A request can add a line of its own**: here it is the line that reports a script as saved,
though nothing has been saved. -/
theorem posing_adds_line :
    (∃ before behind, (execute user (posingWords true) [] ⟨[], []⟩).1.output =
      before ++ "\n" ++ savedStatus ⟨"/widgets/index.jsx"⟩ ++ "\n" ++ behind) ∧
    (execute user (posingWords true) [] ⟨[], []⟩).1.status = 1 ∧
    (execute user (posingWords true) [] ⟨[], []⟩).2.nodes = [] := by
  have hrun : (run (options user false (posingJob true)) posing).run
      ((posingJob true).world ⟨[], []⟩ []) =
      (Report.of (.error (.violation (.unusedStyle posingName))),
        (posingJob true).world ⟨[], []⟩ []) := by
    rw [run, run_map, compile, generate_posing]
    rfl
  rw [execute_of_job (parse_posingWords true) rfl rfl, hrun]
  exact ⟨⟨"Widget generation failed: Style variable 'a' is unused",
    "' is declared but never referenced in the markup\n", rfl⟩, rfl, rfl⟩

end Compiler

end WidgetForge
