import WidgetForge.Operator.Programs
import WidgetForge.Proofs.Compiler.Series
import WidgetForge.Proofs.Machine.Quiet
import WidgetForge.Proofs.Text.Utf8

/-!
# Asking through a program that only prints

The results on what compiling leaves take it that the picker changes no file by itself. A picker
that runs a program need not be so good: a shell does whatever its script says. But the programs
that print what they are told (`speakers`) open no file, so whatever their arguments are, to ask
through one of them is careful. The plainest of them, `echo`, answers with the path that its
argument becomes.
-/

namespace WidgetForge.Utility

open Machine

theorem quiet_misused (p : Invocation) (status : Nat) (complaint : String) :
    Quiet (misused p status complaint) :=
  (p.quiet_report _).bind fun _ => (p.quiet_complain _).bind fun _ => quiet_pure _

theorem quiet_reportFile (p : Invocation) (file : String) (e : Disk.OsError) :
    Quiet (reportFile p file e) := p.quiet_report _

theorem quiet_withOptions {o : Options} {status : Nat} {p : Invocation} {next : Given → Act Nat}
    (hnext : ∀ g, Quiet (next g)) : Quiet (withOptions o status p next) := by
  unfold withOptions
  split
  · exact quiet_misused _ _ _
  · exact hnext _

theorem quiet_eachOperand {operands : List String} {f : String → Act Nat}
    (hf : ∀ operand, Quiet (f operand)) : Quiet (eachOperand operands f) := by
  refine (Quiet.forIn (fun operand status => ?_) _).bind fun _ => quiet_pure _
  exact (hf operand).bind fun _ => quiet_pure _

/-- A program may print and end. -/
theorem quiet_printing (p : Invocation) (text : String) (status : Nat) :
    Quiet (do p.print text; return status) := (p.quiet_print text).bind fun _ => quiet_pure _

/-! ### Texts and numbers -/

theorem quiet_ending (status : Nat) (p : Invocation) : Quiet (ending status p) := quiet_pure _

theorem quiet_echo (p : Invocation) : Quiet (echo p) := by
  unfold echo
  extract_lets
  split
  · exact quiet_printing _ _ _
  · exact quiet_printing _ _ _

theorem quiet_printf (p : Invocation) : Quiet (printf p) := by
  unfold printf
  extract_lets arguments
  cases arguments with
  | nil => exact quiet_misused _ _ _
  | cons format rest =>
    refine (Quiet.forIn (fun complaint _ => ?_) _).bind fun _ => ?_
    · exact (p.quiet_report complaint).bind fun _ => quiet_pure _
    · extract_lets
      split
      · cases rest with
        | nil => exact quiet_printing _ _ _
        | cons first rest => exact (p.quiet_report _).bind fun _ => quiet_printing _ _ _
      · exact quiet_printing _ _ _

theorem quiet_yes (p : Invocation) : Quiet (yes p) := quiet_printing _ _ _

theorem quiet_seq (p : Invocation) : Quiet (seq p) := by
  unfold seq
  extract_lets
  split
  · exact quiet_misused _ _ _
  · extract_lets go
    split
    · exact quiet_misused _ _ _
    · have hgo (first step last : Int) : Quiet (go first step last) := by
        unfold go
        extract_lets
        split
        · exact quiet_printing _ _ _
        · exact quiet_pure _
      clear_value *
      split
      · exact hgo _ _ _
      · exact hgo _ _ _
      · split
        · exact quiet_misused _ _ _
        · exact hgo _ _ _
      · exact quiet_misused _ _ _
      · exact quiet_misused _ _ _

/-- A condition looks at files and changes none. -/
theorem Condition.quiet_program (p : Invocation) : Quiet (Condition.program p) := by
  unfold Condition.program Condition.finish
  split
  · exact p.quiet_fail _ _
  · refine quiet_get.bind fun m => ?_
    split
    · exact p.quiet_fail _ _
    · exact quiet_pure _
    · exact quiet_pure _

theorem Expression.quiet_program (p : Invocation) : Quiet (Expression.program p) := by
  unfold Expression.program
  extract_lets
  split
  · exact quiet_misused _ _ _
  · split
    · exact p.quiet_fail _ _
    · exact p.quiet_fail _ _
    · exact quiet_printing _ _ _

/-! ### Names of files -/

theorem quiet_pwd (p : Invocation) : Quiet (pwd p) :=
  quiet_get.bind fun _ => quiet_printing _ _ _

theorem quiet_basename (p : Invocation) : Quiet (basename p) := by
  refine quiet_withOptions fun g => ?_
  extract_lets
  split
  · exact quiet_misused _ _ _
  · split
    · exact Quiet.each (fun _ => p.quiet_print _) _
    · split
      · exact quiet_misused _ _ _
      · exact quiet_printing _ _ _
      · exact quiet_pure _

theorem quiet_dirname (p : Invocation) : Quiet (dirname p) := by
  refine quiet_withOptions fun g => ?_
  split
  · exact quiet_misused _ _ _
  · exact Quiet.each (fun _ => p.quiet_print _) _

theorem quiet_realpath (p : Invocation) : Quiet (realpath p) := by
  refine quiet_withOptions fun g => ?_
  split
  · exact quiet_misused _ _ _
  · refine (Quiet.forIn (fun path status => ?_) _).bind fun _ => quiet_pure _
    refine quiet_get.bind fun m => ?_
    split
    · exact (p.quiet_print _).bind fun _ => quiet_pure _
    · split
      · exact (quiet_reportFile _ _ _).bind fun _ => quiet_pure _
      · exact quiet_pure _

theorem quiet_readlink (p : Invocation) : Quiet (readlink p) := by
  refine quiet_withOptions fun g => ?_
  split
  · exact quiet_misused _ _ _
  · refine (Quiet.forIn (fun path status => ?_) _).bind fun _ => quiet_pure _
    refine quiet_get.bind fun m => ?_
    extract_lets t found
    clear_value found
    cases found with
    | ok text => exact (p.quiet_print _).bind fun _ => quiet_pure _
    | error e =>
      dsimp only
      split
      · exact (quiet_reportFile _ _ _).bind fun _ => quiet_pure _
      · exact quiet_pure _

/-! ### Where one is -/

theorem Launching.quiet_printenv (p : Invocation) : Quiet (Launching.printenv p) := by
  refine quiet_withOptions fun g => ?_
  extract_lets
  split
  · exact Quiet.each (fun _ => p.quiet_print _) _
  · refine quiet_eachOperand fun name => ?_
    split
    · exact quiet_printing _ _ _
    · exact quiet_pure _

theorem quiet_whoami (p : Invocation) : Quiet (whoami p) := by
  refine quiet_withOptions fun g => ?_
  split
  · exact quiet_misused _ _ _
  · exact quiet_printing _ _ _

theorem quiet_numbersOfUser (p : Invocation) : Quiet (numbersOfUser p) := by
  refine quiet_withOptions fun g => ?_
  split
  · exact quiet_printing _ _ _
  · split
    · exact p.quiet_fail _ _
    · exact quiet_printing _ _ _

theorem quiet_uname (p : Invocation) : Quiet (uname p) :=
  quiet_withOptions fun _ => quiet_printing _ _ _

theorem quiet_tty (p : Invocation) : Quiet (tty p) := by
  unfold tty
  extract_lets
  split
  · exact quiet_printing _ _ _
  · exact quiet_pure _

end WidgetForge.Utility

namespace WidgetForge.Operator

open Compiler Disk Machine Text Utility

theorem quiet_speakers : ∀ entry ∈ speakers, ∀ p, Quiet (entry.2 p) := by
  simp only [speakers, List.forall_mem_cons]
  exact ⟨quiet_echo, quiet_printf, quiet_ending 0, quiet_ending 1, quiet_ending 0, quiet_pwd,
    quiet_yes, quiet_seq, Condition.quiet_program, Condition.quiet_program,
    Expression.quiet_program, quiet_basename, quiet_dirname, quiet_realpath, quiet_readlink,
    Launching.quiet_printenv, quiet_whoami, quiet_numbersOfUser, quiet_uname, quiet_tty, nofun⟩

variable {name : String} {program : Program}

theorem mem_of_lookup {entries : List (String × Program)} (h : entries.lookup name = some program) :
    (name, program) ∈ entries := by
  induction entries with
  | nil => exact nomatch h
  | cons entry rest ih =>
    obtain ⟨key, value⟩ := entry
    by_cases hkey : name = key
    · subst hkey
      obtain rfl : value = program := by simpa using h
      exact List.mem_cons_self
    · rw [List.lookup_cons, beq_eq_false_iff_ne.mpr hkey] at h
      exact List.mem_cons_of_mem _ (ih h)

/-- The name of a program that only prints is the name of no other one. -/
theorem program?_of_speaker (h : speakers.lookup name = some program) :
    program? name = some program := by
  have hkey : name ∈ speakers.map Prod.fst :=
    List.mem_map.mpr ⟨(name, program), mem_of_lookup h, rfl⟩
  have hslash : ∀ key ∈ speakers.map Prod.fst, key.toList.contains '/' = false := by decide
  have hapart (others : Library) : ∀ key ∈ speakers.map Prod.fst,
      key ∉ (launchers others).map Prod.fst := by
    simp [speakers, launchers]
  have hlauncher (others : Library) : (launchers others).lookup name = none :=
    List.lookup_eq_none_iff.mpr fun entry hentry => bne_iff_ne.mpr fun heq =>
      hapart others name hkey (List.mem_map.mpr ⟨entry, hentry, heq.symm⟩)
  have hlibrary (n : Nat) : library (n + 1) name = some program := by
    rw [library, hlauncher, simple?, List.append_assoc, List.lookup_append, h]
    rfl
  rw [program?, hslash name hkey]
  exact hlibrary 63

/-- To run a program that only prints changes no file. -/
theorem tree_of_speaker (home : Option Pathname) (hname : name ∈ speakers.map Prod.fst)
    (s : Surroundings) (arguments : List String) :
    (standardPrograms home s name arguments).2.tree = s.tree := by
  obtain ⟨program, hlookup⟩ : ∃ program, speakers.lookup name = some program := by
    obtain ⟨entry, hentry, rfl⟩ := List.mem_map.mp hname
    refine Option.ne_none_iff_exists'.mp fun hnone => ?_
    exact bne_iff_ne.mp (List.lookup_eq_none_iff.mp hnone entry hentry) rfl
  have hfileless : Machine.Fileless ⟨s.tree, #[.nothing, .memory [], .memory s.errors], []⟩ := by
    simp [Fileless]
  have hquiet := quiet_speakers _ (mem_of_lookup hlookup)
  unfold standardPrograms
  split_ifs
  · rfl
  · rw [program?_of_speaker hlookup]
    exact congrArg (fun tree : Tree => { tree with here := s.tree.here }) (hquiet _ _ hfileless).2

/-- **To ask through a program that only prints is careful**, whatever it is told to print. -/
theorem careful_speaker (home : Option Pathname) (hname : name ∈ speakers.map Prod.fst)
    (arguments : List String) :
    Careful (Command.picker ⟨name, arguments⟩ (standardPrograms home)) := by
  have htree (s : Surroundings) (prompt : Prompt) :
      (Command.picker ⟨name, arguments⟩ (standardPrograms home) s prompt).2.tree = s.tree :=
    tree_of_speaker home hname _ _
  refine ⟨fun s prompt => ?_, fun s prompt l => ?_⟩
  · rw [htree]
    exact Tree.Kept.refl s.tree
  · rw [htree]

/-! ### Echoing a path -/

theorem toNat_ofNat_octet (b : UInt8) : (Char.ofNat b.toNat).toNat = b.toNat := by
  have hlimit : b.toNat < 256 := b.toNat_lt
  have hvalid : b.toNat.isValidChar := Or.inl (by omega)
  rw [Char.ofNat, dif_pos hvalid]
  rfl

theorem write_spread (text : String) :
    Octetwise.write (Octetwise.spread text) = Utf8.encode text := by
  simp [Octetwise.write, Octetwise.spread, Octetwise.read, toNat_ofNat_octet, Function.comp_def]

section

variable {text : String}

/-- A word that begins with a slash is no option, and it is printed with nothing else. -/
theorem echo_of_path {p : Invocation} (hp : p.arguments = [text])
    (htext : text.toList.head? = some '/') :
    echo p = (do
      p.print (text ++ "\n")
      return 0) := by
  obtain ⟨rest, hrest⟩ := List.head?_eq_some_iff.mp htext
  unfold echo
  simp [hp, hrest]

theorem run_echo (home : Option Pathname) (htext : text.toList.head? = some '/')
    (s : Surroundings) :
    run home echo "echo" [text] s = (⟨true, Utf8.encode (text ++ "\n")⟩, s) := by
  obtain ⟨rest, hrest⟩ := List.head?_eq_some_iff.mp htext
  have hword : (Octetwise.spread text).toList.head? = some '/' := by
    simp only [Octetwise.spread, Octetwise.read, Utf8.encode, Utf8.encodeChars, hrest,
      List.flatMap_cons, String.toList_ofList]
    rfl
  have hwritten : Octetwise.write (Octetwise.spread text ++ "\n") =
      Utf8.encode (text ++ "\n") := by
    have hspread := write_spread text
    have hten : String.utf8EncodeChar '\n' = [10] := by decide
    simp only [Octetwise.write, Utf8.encode, Utf8.encodeChars] at hspread
    simp [Octetwise.write, Utf8.encode, Utf8.encodeChars, hspread, hten]
  unfold run
  simp only [List.map_cons, List.map_nil]
  rw [echo_of_path rfl hword]
  generalize Octetwise.spread text ++ "\n" = line at hwritten
  rw [← hwritten]
  rfl

end

/-- **To ask through `echo`** gets the path that its argument becomes, if that is an absolute path,
and changes nothing. -/
theorem picker_echo (home : Option Pathname) {prompt : Prompt} {argument : String}
    (hslash : (Command.expand prompt argument).toList.head? = some '/')
    (hnul : Char.ofNat 0 ∉ (Command.expand prompt argument).toList) (s : Surroundings) :
    Command.picker ⟨"echo", [argument]⟩ (standardPrograms home) s prompt =
      (.ok ((Command.firstLine (Command.expand prompt argument ++ "\n")).map Pathname.mk), s) := by
  have hecho :
      standardPrograms home { s with input := [] } "echo" [Command.expand prompt argument] =
        (.ok ⟨true, Utf8.encode (Command.expand prompt argument ++ "\n")⟩,
          { s with input := [] }) := by
    have hwords : (["echo", Command.expand prompt argument].any
        fun w => w.toList.contains (Char.ofNat 0)) = false := by
      have hname : ("echo".toList.contains (Char.ofNat 0)) = false := by decide
      simp only [List.any_cons, List.any_nil, hname, Bool.or_false, Bool.false_or]
      simpa using hnul
    rw [standardPrograms, hwords, @program?_of_speaker "echo" echo rfl]
    simp only [Bool.false_eq_true, if_false, run_echo home hslash]
  simp only [Command.picker, List.map_cons, List.map_nil, hecho, Except.map, Command.answer,
    if_true, Utf8.decodeLossy_encode]

end WidgetForge.Operator
