import Mathlib.Data.List.Infix
import WidgetForge.Proofs.Text.First
import WidgetForge.Proofs.Widget.Script

/-!
# Styles that imitate other styles

The names and bodies of styles stand in a script as they are. So a body can hold the end of its own
declaration and further declarations behind it, and then one entry gives the script that several
entries give. Every mapping can be imitated in this way (`artifact_of_swallow`). What keeps mappings
apart is that no name holds the text that opens a body, and that no body holds the text between one
body and the next name (`Legible`): the scripts of two such mappings are the same only if their
entries are.
-/

namespace WidgetForge.Widget.Script

open Text

/-- What stands between the name and the body of a style. -/
def bodyOpening : String := " = css`"

/-- What stands between the body of a style and the name of the next one. -/
def nextOpening : String := "`;\nconst "

/-! ### One entry for several -/

/-- The body that declares further styles behind its own. -/
def swallow (body : String) : List (String × String) → String
  | [] => body
  | (name, next) :: rest => body ++ nextOpening ++ name ++ bodyOpening ++ swallow next rest

/-- The declarations of several entries are the declaration of one. -/
theorem intercalate_declarations (name body : String) (rest : List (String × String)) :
    "\n".intercalate (((name, body) :: rest).map declaration) =
      declaration (name, swallow body rest) := by
  induction rest generalizing name body with
  | nil => simp [swallow]
  | cons next rest ih =>
    obtain ⟨n, b⟩ := next
    have hnext : nextOpening = "`;" ++ "\n" ++ "const " := by decide
    have hothers := ih n b
    simp only [List.map_cons] at hothers ⊢
    rw [String.intercalate_cons_cons, hothers]
    simp only [declaration, swallow, hnext, bodyOpening, String.append_assoc]

theorem declarations_of_cons {styles : StyleMapping} {name body : String}
    {rest : List (String × String)} (h : styles.entries = (name, body) :: rest) :
    declarations styles = declaration (name, swallow body rest) := by
  rw [declarations, h, ← intercalate_declarations]
  rfl

theorem declarations_of_nil {styles : StyleMapping} (h : styles.entries = []) :
    declarations styles = noStyles := by
  rw [declarations, h]
  rfl

/-- What stands in a script before the declarations depends on the request alone. -/
theorem artifact_eq_iff (r : Request) (styles styles' : StyleMapping) :
    Artifact.of r styles = Artifact.of r styles' ↔ declarations styles = declarations styles' := by
  have htext (s : StyleMapping) : (Artifact.of r s).text =
      String.join ([header, "\n", "/* ----- Übersicht exports ---- */\n\n"] ++ exports r ++
        ["\n", "/* ----- local stuff ---- */\n\n"]) ++ declarations s := by
    rw [Artifact.text_of]
    simp only [pieces, String.join_append, String.append_assoc]
    rfl
  rw [Artifact.mk.injEq, htext, htext]
  exact String.append_right_inj _

/-- **Several entries have an imitation**: the mapping of one entry, with the first name and a body
that swallows all other entries, gives the same script. -/
theorem artifact_of_swallow (r : Request) {styles : StyleMapping} {name body : String}
    {rest : List (String × String)} (h : styles.entries = (name, body) :: rest) :
    Artifact.of r styles = Artifact.of r (.ofList [(name, swallow body rest)]) := by
  have hsingle : (StyleMapping.ofList [(name, swallow body rest)]).entries =
      [(name, swallow body rest)] := rfl
  rw [artifact_eq_iff, declarations_of_cons h, declarations_of_cons hsingle]
  rfl

/-- A body that declares a variable beside its own. -/
def forging : StyleMapping := .ofList [("a", "x`;\nconst b = css`y")]

/-- The two variables that the script of `forging` declares. -/
def forged : StyleMapping := .ofList [("a", "x"), ("b", "y")]

/-- A request with nothing special. -/
def ordinary : Request := ⟨"date", 1000, "top: 10px;", "<p>\x7bdata\x7d</p>", "\x7b\x7d"⟩

theorem forging_imitates_forged :
    forging.entries ≠ forged.entries ∧
      Artifact.of ordinary forging = Artifact.of ordinary forged := by
  have hbody : swallow "x" [("b", "y")] = "x`;\nconst b = css`y" := by decide
  refine ⟨by decide, ?_⟩
  rw [@artifact_of_swallow ordinary forged "a" "x" [("b", "y")] rfl, hbody, forging]

/-! ### Mappings without imitations -/

/-- No name and no body holds the text that ends it. -/
structure Legible (entries : List (String × String)) : Prop where
  names : ∀ entry ∈ entries, ¬ bodyOpening.toList <:+: entry.1.toList
  bodies : ∀ entry ∈ entries, ¬ nextOpening.toList <:+: entry.2.toList

theorem Legible.tail {entry : String × String} {rest : List (String × String)}
    (h : Legible (entry :: rest)) : Legible rest :=
  ⟨fun e he => h.names e (List.mem_cons_of_mem _ he),
    fun e he => h.bodies e (List.mem_cons_of_mem _ he)⟩

/-- A legible name ends where its body is opened. -/
theorem name_append_inj {name name' : String} {text text' : List Char}
    (h : ¬ bodyOpening.toList <:+: name.toList) (h' : ¬ bodyOpening.toList <:+: name'.toList)
    (heq : name.toList ++ bodyOpening.toList ++ text =
      name'.toList ++ bodyOpening.toList ++ text') : name = name' ∧ text = text' := by
  have hmark : bodyOpening.toList = " = css".toList ++ [Char.ofNat 0x60] := by decide
  rw [hmark] at h h' heq
  exact (append_inj_of_no_occurrence (by decide) h h' heq).imp_left String.toList_inj.mp

/-- A legible body ends where the next name begins. -/
theorem body_append_inj {body body' : String} {text text' : List Char}
    (h : ¬ nextOpening.toList <:+: body.toList) (h' : ¬ nextOpening.toList <:+: body'.toList)
    (heq : body.toList ++ nextOpening.toList ++ text =
      body'.toList ++ nextOpening.toList ++ text') : body = body' ∧ text = text' := by
  have hmark : nextOpening.toList = ("`;\n" ++ "const").toList ++ [' '] := by decide
  rw [hmark] at h h' heq
  exact (append_inj_of_no_occurrence (by decide) h h' heq).imp_left String.toList_inj.mp

theorem toList_swallow_cons (body : String) (next : String × String)
    (rest : List (String × String)) :
    (swallow body (next :: rest)).toList = body.toList ++ nextOpening.toList ++
      (next.1.toList ++ bodyOpening.toList ++ (swallow next.2 rest).toList) := by
  simp [swallow]

/-- A body that swallows others holds the text that ends it. -/
theorem infix_swallow_cons (body : String) (next : String × String)
    (rest : List (String × String)) :
    nextOpening.toList <:+: (swallow body (next :: rest)).toList :=
  ⟨_, _, (toList_swallow_cons body next rest).symm⟩

/-- What a legible body swallows can be told from it: it ends at the first text that ends bodies,
and so on. -/
theorem swallow_inj {name name' body body' : String} {rest rest' : List (String × String)}
    (h : Legible ((name, body) :: rest)) (h' : Legible ((name', body') :: rest'))
    (heq : swallow body rest = swallow body' rest') : body = body' ∧ rest = rest' := by
  induction rest generalizing name name' body body' rest' with
  | nil =>
    have hbody : ¬ nextOpening.toList <:+: (swallow body []).toList :=
      h.bodies _ List.mem_cons_self
    cases rest' with
    | nil => exact ⟨heq, rfl⟩
    | cons next' rest' =>
      -- the body on the left would hold the text that ends it
      rw [heq] at hbody
      exact absurd (infix_swallow_cons body' next' rest') hbody
  | cons next rest ih =>
    cases rest' with
    | nil =>
      have hbody' : ¬ nextOpening.toList <:+: (swallow body' []).toList :=
        h'.bodies _ List.mem_cons_self
      rw [← heq] at hbody'
      exact absurd (infix_swallow_cons body next rest) hbody'
    | cons next' rest' =>
      rw [← String.toList_inj, toList_swallow_cons, toList_swallow_cons] at heq
      obtain ⟨rfl, hrest⟩ := body_append_inj (h.bodies _ List.mem_cons_self)
        (h'.bodies _ List.mem_cons_self) heq
      obtain ⟨hname, hswallow⟩ := name_append_inj (h.tail.names _ List.mem_cons_self)
        (h'.tail.names _ List.mem_cons_self) hrest
      obtain ⟨hnext, hothers⟩ := ih h.tail h'.tail (String.toList_inj.mp hswallow)
      exact ⟨rfl, by rw [Prod.ext hname hnext, hothers]⟩

theorem toList_declaration (name body : String) :
    (declaration (name, body)).toList = "const ".toList ++
      (name.toList ++ bodyOpening.toList ++ body.toList) ++ "`;".toList := by
  simp [declaration, bodyOpening]

/-- The declarations of legible entries are the same only if the entries are. -/
theorem declaration_swallow_inj {name name' body body' : String}
    {rest rest' : List (String × String)} (h : Legible ((name, body) :: rest))
    (h' : Legible ((name', body') :: rest'))
    (heq : declaration (name, swallow body rest) = declaration (name', swallow body' rest')) :
    (name, body) :: rest = (name', body') :: rest' := by
  rw [← String.toList_inj, toList_declaration, toList_declaration, List.append_cancel_right_eq,
    List.append_cancel_left_eq] at heq
  obtain ⟨rfl, hswallow⟩ := name_append_inj (h.names _ List.mem_cons_self)
    (h'.names _ List.mem_cons_self) heq
  obtain ⟨rfl, rfl⟩ := swallow_inj h h' (String.toList_inj.mp hswallow)
  rfl

/-- What stands for no declarations is no declaration. -/
theorem noStyles_ne_declaration (entry : String × String) : noStyles ≠ declaration entry := by
  intro heq
  have hfirst := congrArg (fun s => s.toList.head?) heq
  simp [declaration, noStyles] at hfirst

/-- **Legible styles can be told apart**: for the same request, two mappings of which one has no
entries, or whose names and bodies do not hold the texts that end them, give the same script only if
their entries are the same. -/
theorem artifact_eq_iff_entries_eq (r : Request) {styles styles' : StyleMapping}
    (h : styles.entries = [] ∨ Legible styles.entries ∧ Legible styles'.entries) :
    Artifact.of r styles = Artifact.of r styles' ↔ styles.entries = styles'.entries := by
  rw [artifact_eq_iff]
  refine ⟨fun heq => ?_, fun heq => by rw [declarations, declarations, heq]⟩
  match hs : styles.entries, hs' : styles'.entries with
  | [], [] => rfl
  | [], entry' :: rest' =>
    rw [declarations_of_nil hs, declarations_of_cons hs'] at heq
    exact absurd heq (noStyles_ne_declaration _)
  | entry :: rest, [] =>
    rw [declarations_of_cons hs, declarations_of_nil hs'] at heq
    exact absurd heq.symm (noStyles_ne_declaration _)
  | entry :: rest, entry' :: rest' =>
    rw [declarations_of_cons hs, declarations_of_cons hs'] at heq
    rw [hs, hs'] at h
    obtain hnil | ⟨hlegible, hlegible'⟩ := h
    · exact nomatch hnil
    · exact declaration_swallow_inj hlegible hlegible' heq

/-- Styles with backticks and copies of the texts around them that are still legible. -/
def tricky : StyleMapping := .ofList [("a = css", "`;\n"), ("const b", "`; const c = css`")]

/-- Other styles of this kind. -/
def trickier : StyleMapping := .ofList [("a = css", "`;\nconst"), ("b", "`; const c = css`")]

theorem artifact_eq_iff_entries_eq_tricky :
    (Legible tricky.entries ∧ Legible trickier.entries) ∧
      Artifact.of ordinary tricky ≠ Artifact.of ordinary trickier := by
  have hlegible : Legible tricky.entries ∧ Legible trickier.entries :=
    ⟨⟨by decide +kernel, by decide +kernel⟩, ⟨by decide +kernel, by decide +kernel⟩⟩
  have hentries : tricky.entries ≠ trickier.entries := by decide
  exact ⟨hlegible, mt (artifact_eq_iff_entries_eq ordinary (Or.inr hlegible)).mp hentries⟩

end WidgetForge.Widget.Script
