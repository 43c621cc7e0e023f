import Mathlib.Data.List.TakeWhile
import WidgetForge.CommandLine.CompilerProgram
import WidgetForge.Proofs.Procedure.Run
import WidgetForge.Proofs.Text.Utf8

/-!
# Compiling a request in a file from the command line

The words of the command line are read one by one; where a value stands behind an equals sign in the
word of its switch, it may hold any characters. So for every file and all options there are words
that ask for compiling the request in this file with these options, and no prompts. The program then
does what the compiler does, prints the status line, and exits with zero unless there is an error.
-/

namespace WidgetForge.CommandLine

/-! ### Words -/

/-- The word of a switch with its value. -/
def wordFor (name value : String) : String := "--" ++ name ++ "=" ++ value

/-- The word of a switch is the switch and its value, whatever the value is. -/
theorem formOf_wordFor {name : String} (h : '=' ∉ name.toList) (value : String) :
    formOf (wordFor name value) = .long name (some value) := by
  have htext : (wordFor name value).toList =
      '-' :: '-' :: (name.toList ++ '=' :: value.toList) := by
    simp [wordFor]
  have hname : (name.toList ++ '=' :: value.toList).takeWhile (· ≠ '=') = name.toList := by
    rw [List.takeWhile_append_of_pos]
    · simp
    · intro c hc
      simpa using fun heq : c = '=' => h (heq ▸ hc)
  -- The equals sign keeps the word from being two hyphens alone.
  have hvalue : (name.toList ++ '=' :: value.toList).drop name.toList.length =
      '=' :: value.toList := by simp
  unfold formOf
  rw [htext]
  generalize name.toList ++ '=' :: value.toList = rest at hname hvalue
  cases rest with
  | nil => exact absurd hvalue.symm (by simp)
  | cons c rest => simp only [hname, hvalue, String.ofList_toList]

/-- A switch with its value is taken as the value if the switch accepts it and is new. -/
theorem readWords_wordFor {grammar : Grammar} {g : Given} {name value : String} {s : Switch}
    (hcommands : grammar.commands = []) (hname : '=' ∉ name.toList)
    (hfind : grammar.switches.find? (fun s => s.name = name) = some s) {accepts : String → Bool}
    {signed : Bool} (hrole : s.role = .value accepts signed) (haccepts : accepts value = true)
    (hnew : g.has s.name = false) (rest : List String) :
    readWords grammar (none, g) (wordFor name value :: rest) =
      readWords grammar (none, { g with switches := (s.name, value) :: g.switches }) rest := by
  simp [readWords, hcommands, formOf_wordFor hname, takeName, hfind, Switch.take, hrole, haccepts,
    Given.add, hnew, Except.map]

/-- A switch without a value is taken if it is new. -/
theorem readWords_flag {grammar : Grammar} {g : Given} {word name : String} {s : Switch}
    (hcommands : grammar.commands = []) (hform : formOf word = .long name none)
    (hfind : grammar.switches.find? (fun s => s.name = name) = some s) (hrole : s.role = .flag)
    (hnew : g.has s.name = false) (rest : List String) :
    readWords grammar (none, g) (word :: rest) =
      readWords grammar (none, { g with switches := (s.name, "") :: g.switches }) rest := by
  simp [readWords, hcommands, hform, takeName, hfind, Switch.takesValue, Switch.alone, hrole,
    Given.add, hnew, Except.map]

namespace CompilerProgram

open Compiler Disk Operator Text Widget

/-- The words that ask for compiling the request in a file, without prompts. -/
def compileWords (file : Pathname) (folder : Option Pathname) (fileName : String)
    (strict saying : Bool) : List String :=
  ["compile", "--no-prompt", wordFor "request" file.text] ++
    (folder.map fun d => wordFor "output-dir" d.text).toList ++ [wordFor "file-name" fileName] ++
    (if strict then ["--strict-styles"] else []) ++ (if saying then ["--verbose"] else [])

/-- The job of compiling the request in a file, without prompts. -/
def jobFor (file : Pathname) (folder : Option Pathname) (fileName : String) (strict : Bool) : Job :=
  ⟨.file file, folder, fileName, strict, false, false⟩

/-- The switches that the words give, last first. -/
def givenBy (file : Pathname) (folder : Option Pathname) (fileName : String)
    (strict saying : Bool) : List (String × String) :=
  (if saying then [("verbose", "")] else []) ++ (if strict then [("strict-styles", "")] else []) ++
    ("file-name", fileName) :: (folder.map fun d => ("output-dir", d.text)).toList ++
      [("request", file.text), ("no-prompt", "")]

theorem readWords_folder {folder : Option Pathname} (h : ∀ d, folder = some d → d.text ≠ "")
    {g : Given} (hnew : g.has "output-dir" = false) (rest : List String) :
    readWords compileGrammar (none, g)
        ((folder.map fun d => wordFor "output-dir" d.text).toList ++ rest) =
      readWords compileGrammar (none, { g with
        switches := (folder.map fun d => ("output-dir", d.text)).toList ++ g.switches }) rest := by
  cases folder with
  | none => rfl
  | some d =>
    have haccepts : (!d.text.isEmpty) = true := by simpa using h d rfl
    have hname : '=' ∉ "output-dir".toList := by decide
    exact @readWords_wordFor compileGrammar g "output-dir" d.text _ rfl hname rfl _ _ rfl haccepts
      hnew rest

theorem readWords_if {g : Given} {word name : String} {s : Switch} {b : Bool}
    (hform : formOf word = .long name none)
    (hfind : compileGrammar.switches.find? (fun s => s.name = name) = some s)
    (hrole : s.role = .flag) (hnew : g.has s.name = false) (rest : List String) :
    readWords compileGrammar (none, g) ((if b then [word] else []) ++ rest) =
      readWords compileGrammar (none, { g with
        switches := (if b then [(s.name, "")] else []) ++ g.switches }) rest := by
  cases b with
  | false => rfl
  | true => exact readWords_flag rfl hform hfind hrole hnew rest

theorem read_compileWords {file : Pathname} (hfile : file.text ≠ "") {folder : Option Pathname}
    (hfolder : ∀ d, folder = some d → d.text ≠ "") (fileName : String) (strict saying : Bool) :
    compileGrammar.read (compileWords file folder fileName strict saying).tail =
      .ok ⟨givenBy file folder fileName strict saying, [], none⟩ := by
  have haccepts : (!file.text.isEmpty) = true := by simpa using hfile
  have hwords : (compileWords file folder fileName strict saying).tail =
      "--no-prompt" :: wordFor "request" file.text ::
        ((folder.map fun d => wordFor "output-dir" d.text).toList ++
          (wordFor "file-name" fileName :: ((if strict then ["--strict-styles"] else []) ++
            ((if saying then ["--verbose"] else []) ++ [])))) := by
    simp [compileWords, List.append_assoc]
  rw [hwords, Grammar.read,
    readWords_flag rfl (show formOf "--no-prompt" = .long "no-prompt" none from rfl) rfl rfl rfl,
    readWords_wordFor rfl (by decide) rfl rfl haccepts rfl, readWords_folder hfolder rfl,
    readWords_wordFor rfl (by decide) rfl rfl rfl (by cases folder <;> rfl),
    readWords_if (show formOf "--strict-styles" = .long "strict-styles" none from rfl) rfl rfl
      (by cases folder <;> rfl),
    readWords_if (show formOf "--verbose" = .long "verbose" none from rfl) rfl rfl
      (by cases folder <;> cases strict <;> rfl)]
  simp [readWords, givenBy, Given.none, verbose, aPath, anyText]

theorem jobOf_givenBy (file : Pathname) (folder : Option Pathname) (fileName : String)
    (strict saying : Bool) :
    jobOf ⟨givenBy file folder fileName strict saying, [], none⟩ =
      .ok (jobFor file folder fileName strict) := by
  cases folder <;> cases strict <;> cases saying <;> rfl

theorem has_verbose_givenBy (file : Pathname) (folder : Option Pathname) (fileName : String)
    (strict saying : Bool) :
    Given.has ⟨givenBy file folder fileName strict saying, [], none⟩ "verbose" = saying := by
  cases folder <;> cases strict <;> cases saying <;> rfl

/-- **There are words for every job**: they are read as the job of compiling the request in the
file. -/
theorem parse_compileWords {file : Pathname} (hfile : file.text ≠ "") {folder : Option Pathname}
    (hfolder : ∀ d, folder = some d → d.text ≠ "") (fileName : String) (strict saying : Bool) :
    parse (compileWords file folder fileName strict saying) =
      .ok (saying, .compile (jobFor file folder fileName strict)) := by
  have hcompile : grammar.read (compileWords file folder fileName strict saying) =
      .ok ⟨[], [], some ("compile", (compileWords file folder fileName strict saying).tail)⟩ := by
    simp [Grammar.read, compileWords, readWords, grammar, Given.none]
  have hsaying : Given.has ⟨[], [],
      some ("compile", (compileWords file folder fileName strict saying).tail)⟩ "verbose" =
      false := rfl
  simp only [parse, hcompile, read_compileWords hfile hfolder, jobOf_givenBy, Except.map,
    has_verbose_givenBy, hsaying, Bool.false_or]

/-! ### What the program does -/

/-- The words ask for compiling the request in a file with some options, and no prompts. -/
def Asks (env : Environment) (words : List String) (file : Pathname) (o : Options) : Prop :=
  ∃ saying job, parse words = .ok (saying, .compile job) ∧ job.source = .file file ∧
    job.printing = false ∧ job.asking = false ∧ options env saying job = o

/-- All options with a folder can be asked for. -/
theorem asks_compileWords (env : Environment) {file folder : Pathname} (hfile : file.text ≠ "")
    (hfolder : folder.text ≠ "") (fileName : String) (strict saying : Bool) :
    Asks env (compileWords file (some folder) fileName strict saying) file
      ⟨some folder, fileName, strict, saying⟩ := by
  have hnonempty : ∀ d, some folder = some d → d.text ≠ "" := by
    rintro d ⟨⟩
    exact hfolder
  exact ⟨saying, _, parse_compileWords hfile hnonempty fileName strict saying, rfl, rfl, rfl, rfl⟩

/-- The world of a program whose operator may not be asked. -/
def quiet (tree : Tree) (typed : Octets) : World := ⟨⟨tree, typed, []⟩, Picker.declining, []⟩

theorem run_request {file : Pathname} {w : World} {r : Request} {text : String}
    (hfile : w.tree.lookUp file = .ok (.file (Utf8.encode text)))
    (htext : Request.parse text = .ok r) : (request (.file file)).run w = (.ok r, w) := by
  have hread : w.perform (.readFile file) = (.ok (Utf8.encode text), w) := by
    simp [World.perform, Surroundings.readFile, hfile]
  rw [request, Document.load, Procedure.run_map, Document.read, Procedure.run, hread]
  simp [Procedure.run, Document.textOf, Utf8.decode_encode, htext]

/-- The world in which a job is done. -/
def Job.world (job : Job) (tree : Tree) (typed : Octets) : World :=
  ⟨⟨tree, typed, []⟩, if job.asking then Terminal.picker else Picker.declining, []⟩

/-- A job is done in its world, and what has been written to the error output comes first. -/
theorem execute_of_parse {env : Environment} {words : List String} {saying : Bool} {job : Job}
    (hparse : parse words = .ok (saying, .compile job)) (typed : Octets) (tree : Tree) :
    execute env words typed tree =
      (((compile env saying job).run (job.world tree typed)).1.after
        ((compile env saying job).run (job.world tree typed)).2.errors,
        ((compile env saying job).run (job.world tree typed)).2.tree) := by
  rw [execute, hparse]
  rfl

/-- A job that saves runs the compiler once its request has been taken. -/
theorem execute_of_job {env : Environment} {words : List String} {saying : Bool} {job : Job}
    (hparse : parse words = .ok (saying, .compile job)) (hprinting : job.printing = false)
    {tree : Tree} {typed : Octets} {r : Request} {w : World}
    (hrequest : (request job.source).run (job.world tree typed) = (.ok r, w)) :
    execute env words typed tree =
      ((reported saying ((run (options env saying job) r).run w).1).after
        ((run (options env saying job) r).run w).2.errors,
        ((run (options env saying job) r).run w).2.tree) := by
  have hrun : (compile env saying job).run (job.world tree typed) =
      (reported saying ((run (options env saying job) r).run w).1,
        ((run (options env saying job) r).run w).2) := by
    rw [compile, Procedure.run_bind, hrequest]
    simp only [hprinting, Bool.false_eq_true, if_false, Procedure.run_map]
  rw [execute_of_parse hparse, hrun]

/-- What is printed of a report is its status. -/
theorem output_reported (saying : Bool) (report : Report) (errors : Octets) :
    ((reported saying report).after errors).output = report.status ++ "\n" := by
  unfold reported Finish.after
  cases report.error <;> rfl

/-- **The program prints what the compiler reports**, leaves the file tree as the compiler does, and
exits with zero unless there is an error. -/
theorem execute_of_asks {env : Environment} {words : List String} {file : Pathname} {o : Options}
    (hwords : Asks env words file o) {tree : Tree} {r : Request} {text : String}
    (hfile : tree.lookUp file = .ok (.file (Utf8.encode text)))
    (htext : Request.parse text = .ok r) (typed : Octets) :
    (execute env words typed tree).1.output =
        ((run o r).run (quiet tree typed)).1.status ++ "\n" ∧
      (execute env words typed tree).2 = ((run o r).run (quiet tree typed)).2.tree ∧
      ((execute env words typed tree).1.status = 0 ↔
        ((run o r).run (quiet tree typed)).1.error = none) := by
  obtain ⟨saying, job, hparse, hsource, hprinting, hasking, rfl⟩ := hwords
  have hworld : job.world tree typed = quiet tree typed := by
    simp only [Job.world, hasking, Bool.false_eq_true, if_false, quiet]
  have hrequest : (request job.source).run (job.world tree typed) =
      (.ok r, quiet tree typed) := by
    rw [hworld, hsource]
    exact run_request hfile htext
  rw [execute_of_job hparse hprinting hrequest]
  refine ⟨output_reported _ _ _, rfl, ?_⟩
  generalize (run (options env saying job) r).run (quiet tree typed) = outcome
  cases herror : outcome.1.error <;> simp [reported, Finish.after, herror]

end CompilerProgram

end WidgetForge.CommandLine
