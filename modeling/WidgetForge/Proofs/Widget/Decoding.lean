import Mathlib
import WidgetForge.Proofs.Text.Split
import WidgetForge.Proofs.Widget.Script

/-!
# Scripts without further backticks can be taken apart

A script puts the markup, the positioning and the styles between fixed texts as they are. They may
hold copies of these fixed texts, so looking for a fixed text does not tell where a part ends. But
as long as no part has a backtick, all backticks of a script behind its interval are its own: cut
there, it falls into pieces each of which holds one part at most, between a beginning and an end
that are known. `decode` recovers all parts that way.
-/

namespace WidgetForge

namespace Widget.Script

open Text

/-! ### The decoder -/

/-- What a script is made of. -/
structure Parts where
  /-- The command. -/
  command : String
  /-- The refresh interval. -/
  interval : Int
  /-- The markup. -/
  markup : String
  /-- The positioning. -/
  positioning : String
  /-- The names and bodies of the styles, in order. -/
  styles : List (String × String)
  deriving DecidableEq, Repr

/-- The parts of the script of a request and its styles. -/
def parts (r : Request) (styles : StyleMapping) : Parts :=
  ⟨r.command, r.interval.toInt, r.markup, r.positioning, styles.entries⟩

/-- The character that begins and ends a body. -/
def backtick : Char := Char.ofNat 0x60

/-- What stands before the markup. -/
def markupOpening : String := "export const render = (\x7b data_in \x7d) => (\n    "

/-- What stands between the markup and the positioning, up to the backtick. -/
def markupClosing : String := "\n);\n\n" ++ "export const className = css"

/-- What stands between the positioning and the declarations, from the backtick on. -/
def localOpening : String := ";\n" ++ "\n" ++ "/* ----- local stuff ---- */\n\n"

/-- What is left of a text between a beginning and an end. -/
def inside (opening closing : String) (cs : List Char) : Option String :=
  ((cs.dropPrefix? opening.toList).bind (·.dropSuffix? closing.toList)).map String.ofList

/-- Reads declarations that have been cut at their backticks. The text `before` stands before the
first one. -/
def readDeclarations (before : String) : List (List Char) → Option (List (String × String))
  | [] => none
  | [ending] => if ending = [';'] then some [] else none
  | opening :: body :: rest => do
    let name ← inside (before ++ "const ") " = css" opening
    let others ← readDeclarations ";\n" rest
    return (name, String.ofList body) :: others

/-- Reads the styles of a script that has been cut at its backticks. -/
def readStyles (pieces : List (List Char)) : Option (List (String × String)) :=
  if pieces = [(localOpening ++ noStyles).toList] then some []
  else readDeclarations localOpening pieces

/-- Reads the markup, the positioning and the styles of a script that has been cut at its
backticks. -/
def readBody : List (List Char) → Option (String × String × List (String × String))
  | render :: className :: rest => do
    let markup ← inside markupOpening markupClosing render
    let positioning ← inside "\n" "\n" className
    let styles ← readStyles rest
    return (markup, positioning, styles)
  | _ => none

/-- Takes a script apart. -/
def decode (text : String) : Option Parts := do
  let behindLead ← text.toList.dropPrefix? (lead ++ commandOpening).toList
  let (command, behindLiteral) ← Literal.read behindLead
  let line ← behindLiteral.dropPrefix? ("\n" ++ intervalOpening).toList
  let interval ← (String.ofList (line.takeWhile (· ≠ '\n'))).toInt?
  let body ← (line.dropWhile (· ≠ '\n')).dropPrefix? "\n\n".toList
  let (markup, positioning, styles) ← readBody (split backtick body)
  return ⟨String.ofList command, interval, markup, positioning, styles⟩

/-! ### Its parts -/

/-- No part of a script but the command has a backtick. -/
structure BacktickFree (r : Request) (styles : StyleMapping) : Prop where
  markup : backtick ∉ r.markup.toList
  positioning : backtick ∉ r.positioning.toList
  names : ∀ entry ∈ styles.entries, backtick ∉ entry.1.toList
  bodies : ∀ entry ∈ styles.entries, backtick ∉ entry.2.toList

theorem dropPrefix?_append (a b : List Char) : (a ++ b).dropPrefix? a = some b :=
  List.dropPrefix?_append_of_beq b (beq_self_eq_true a)

theorem inside_append (opening closing s : String) :
    inside opening closing (opening ++ s ++ closing).toList = some s := by
  have hsuffix : (s.toList ++ closing.toList).dropSuffix? closing.toList = some s.toList :=
    List.dropSuffix?_eq_some_iff.mpr ⟨closing.toList, rfl, beq_self_eq_true _⟩
  rw [inside, String.toList_append, String.toList_append, List.append_assoc, dropPrefix?_append,
    Option.bind_some, hsuffix, Option.map_some, String.ofList_toList]

/-- The characters of some declarations, with line feeds between them. -/
def declarationChars (entries : List (String × String)) : List Char :=
  ("\n".intercalate (entries.map declaration)).toList

theorem declarationChars_cons (entry : String × String) (rest : List (String × String)) :
    declarationChars (entry :: rest) =
      ("const " ++ entry.1 ++ " = css").toList ++ backtick :: (entry.2.toList ++ backtick :: ';' ::
        (if rest = [] then [] else '\n' :: declarationChars rest)) := by
  have hopen : " = css`".toList = " = css".toList ++ [backtick] := by decide
  have hclose : "`;".toList = [backtick, ';'] := by decide
  have hfeed : "\n".toList = ['\n'] := by decide
  cases rest with
  | nil => simp [declarationChars, declaration, hopen, hclose]
  | cons next rest =>
    simp [declarationChars, declaration, hopen, hclose, hfeed]

/-- Declarations are read back, whatever stands before the first one. -/
theorem readDeclarations_split {entries : List (String × String)} (hne : entries ≠ [])
    (hnames : ∀ entry ∈ entries, backtick ∉ entry.1.toList)
    (hbodies : ∀ entry ∈ entries, backtick ∉ entry.2.toList) {before : String}
    (hbefore : backtick ∉ before.toList) :
    readDeclarations before (split backtick (before.toList ++ declarationChars entries)) =
      some entries := by
  induction entries generalizing before with
  | nil => exact absurd rfl hne
  | cons entry rest ih =>
    have hname := hnames entry List.mem_cons_self
    have hbody := hbodies entry List.mem_cons_self
    have hopening : backtick ∉ (before ++ "const " ++ entry.1 ++ " = css").toList := by
      have hconst : backtick ∉ "const ".toList := by decide
      have hcss : backtick ∉ " = css".toList := by decide
      simp only [String.toList_append, List.mem_append, not_or]
      exact ⟨⟨⟨hbefore, hconst⟩, hname⟩, hcss⟩
    -- the first two pieces are the first entry, and the others begin behind its body
    have hsplit : split backtick (before.toList ++ declarationChars (entry :: rest)) =
        (before ++ "const " ++ entry.1 ++ " = css").toList :: entry.2.toList ::
          split backtick (';' :: (if rest = [] then [] else '\n' :: declarationChars rest)) := by
      rw [← split_append_cons hbody, ← split_append_cons hopening, declarationChars_cons]
      simp only [String.toList_append, List.append_assoc]
    rw [hsplit, readDeclarations, inside_append]
    cases rest with
    | nil =>
      have hending : split backtick [';'] = [[';']] := by decide
      simp [hending, readDeclarations]
    | cons next rest =>
      have hends : backtick ∉ ";\n".toList := by decide
      have hothers := ih (List.cons_ne_nil _ _)
        (fun e he => hnames e (List.mem_cons_of_mem _ he))
        (fun e he => hbodies e (List.mem_cons_of_mem _ he)) hends
      have hfeed : ";\n".toList = [';', '\n'] := by decide
      rw [hfeed, List.cons_append, List.cons_append, List.nil_append] at hothers
      simp [hothers]

theorem backtick_not_mem_localOpening : backtick ∉ localOpening.toList := by decide +kernel

/-- The styles of a script are read back. -/
theorem readStyles_split {styles : StyleMapping}
    (hnames : ∀ entry ∈ styles.entries, backtick ∉ entry.1.toList)
    (hbodies : ∀ entry ∈ styles.entries, backtick ∉ entry.2.toList) :
    readStyles (split backtick (localOpening ++ declarations styles).toList) =
      some styles.entries := by
  cases hentries : styles.entries with
  | nil =>
    have hnone : backtick ∉ (localOpening ++ noStyles).toList := by decide +kernel
    rw [declarations, hentries, List.isEmpty_nil, if_pos rfl, split_of_not_mem hnone, readStyles,
      if_pos rfl]
  | cons entry rest =>
    rw [hentries] at hnames hbodies
    have hread := readDeclarations_split (List.cons_ne_nil entry rest) hnames hbodies
      backtick_not_mem_localOpening
    have htext : (localOpening ++ declarations styles).toList =
        localOpening.toList ++ declarationChars (entry :: rest) := by
      rw [declarations, hentries, String.toList_append]
      rfl
    -- a script without styles has no backtick here, so it is one piece, and this one has more
    have hmore : split backtick (localOpening.toList ++ declarationChars (entry :: rest)) ≠
        [(localOpening ++ noStyles).toList] := by
      intro heq
      rw [heq] at hread
      simp [readDeclarations] at hread
    rw [htext, readStyles, if_neg hmore, hread]

/-- What stands in a script behind the interval. -/
theorem behindInterval_eq (r : Request) (styles : StyleMapping) :
    behindInterval r styles =
      (markupOpening ++ r.markup ++ markupClosing).toList ++ backtick ::
        (("\n" ++ r.positioning ++ "\n").toList ++ backtick ::
          (localOpening ++ declarations styles).toList) := by
  have hclass : "export const className = css`\n".toList =
      "export const className = css".toList ++ backtick :: "\n".toList := by decide +kernel
  have hlocal : "\n`;\n".toList = "\n".toList ++ backtick :: ";\n".toList := by decide
  simp only [behindInterval, exports, markupOpening, markupClosing, localOpening, hclass, hlocal,
    String.toList_append, List.append_assoc, List.cons_append, List.drop_succ_cons, List.drop_zero,
    List.flatMap_cons, List.flatMap_nil, List.append_nil]

/-- The markup, the positioning and the styles are read back. -/
theorem readBody_split {r : Request} {styles : StyleMapping} (h : BacktickFree r styles) :
    readBody (split backtick (behindInterval r styles)) =
      some (r.markup, r.positioning, styles.entries) := by
  have hrender : backtick ∉ (markupOpening ++ r.markup ++ markupClosing).toList := by
    have hopening : backtick ∉ markupOpening.toList := by decide +kernel
    have hclosing : backtick ∉ markupClosing.toList := by decide +kernel
    simp only [String.toList_append, List.mem_append, not_or]
    exact ⟨⟨hopening, h.markup⟩, hclosing⟩
  have hclass : backtick ∉ ("\n" ++ r.positioning ++ "\n").toList := by
    have hfeed : backtick ∉ "\n".toList := by decide
    simp only [String.toList_append, List.mem_append, not_or]
    exact ⟨⟨hfeed, h.positioning⟩, hfeed⟩
  rw [behindInterval_eq, split_append_cons hrender, split_append_cons hclass, readBody,
    inside_append, inside_append, readStyles_split h.names h.bodies]
  rfl

/-- The decimal of the interval is read back from the line that it stands on. -/
theorem interval_line (i : Int) (rest : List Char) :
    String.ofList (((toString i).toList ++ '\n' :: rest).takeWhile (· ≠ '\n')) = toString i ∧
      ((toString i).toList ++ '\n' :: rest).dropWhile (· ≠ '\n') = '\n' :: rest := by
  have hdigits : ∀ c ∈ (toString i).toList, (decide (c ≠ '\n')) = true := fun c hc => by
    simpa using ne_of_mem_of_not_mem hc (Json.control_not_mem_toString (by decide) i)
  rw [List.takeWhile_append_of_pos hdigits, List.dropWhile_append_of_pos hdigits]
  simp

/-- A script is taken apart into what it was made of. -/
theorem decode_text_of {r : Request} {styles : StyleMapping} (h : BacktickFree r styles) :
    decode (Artifact.of r styles).text = some (parts r styles) := by
  have hlead : (Artifact.of r styles).text.toList = (lead ++ commandOpening).toList ++
      (Literal.escapeChars r.command.toList ++
        '"' :: (behindCommand r ++ behindInterval r styles)) := by
    rw [toList_text_of, String.toList_append]
  have hcommand : behindCommand r ++ behindInterval r styles =
      ("\n" ++ intervalOpening).toList ++
        ((toString r.interval.toInt).toList ++ '\n' :: '\n' :: behindInterval r styles) := by
    have hfeed : "\n".toList = ['\n'] := by decide
    simp [behindCommand, hfeed]
  have hblank : ('\n' :: '\n' :: behindInterval r styles).dropPrefix? "\n\n".toList =
      some (behindInterval r styles) := by
    have hfeeds : "\n\n".toList = ['\n', '\n'] := by decide
    rw [hfeeds]
    exact dropPrefix?_append ['\n', '\n'] _
  obtain ⟨hdigits, hrest⟩ := interval_line r.interval.toInt ('\n' :: behindInterval r styles)
  have hinterval : (toString r.interval.toInt).toInt? = some r.interval.toInt := by
    rw [Int.toString_eq_repr, Int.toInt?_repr]
  simp only [decode, hlead, dropPrefix?_append, Option.bind_eq_bind, Option.bind_some,
    Literal.read_escapeChars, hcommand, hdigits, hrest, hinterval, hblank, readBody_split h,
    String.ofList_toList]
  rfl

/-- **Scripts without further backticks are unambiguous**: if the markup, the positioning and the
styles have no backtick, then `decode` recovers the command, the interval, the markup, the
positioning and the styles from the script, so that no other such parts give the same script. -/
theorem decode_recovers_parts {r : Request} {styles : StyleMapping} (h : BacktickFree r styles) :
    decode (Artifact.of r styles).text = some (parts r styles) ∧
      ∀ (r' : Request) (styles' : StyleMapping), BacktickFree r' styles' →
        Artifact.of r styles = Artifact.of r' styles' →
          r.command = r'.command ∧ r.interval = r'.interval ∧ r.markup = r'.markup ∧
            r.positioning = r'.positioning ∧ styles.entries = styles'.entries := by
  refine ⟨decode_text_of h, fun r' styles' h' heq => ?_⟩
  have hparts : some (parts r styles) = some (parts r' styles') := by
    rw [← decode_text_of h, ← decode_text_of h', heq]
  simp only [parts, Option.some.injEq, Parts.mk.injEq] at hparts
  obtain ⟨hcommand, hinterval, hmarkup, hpositioning, hstyles⟩ := hparts
  exact ⟨hcommand, Int64.toInt_inj.mp hinterval, hmarkup, hpositioning, hstyles⟩

/-- A request whose parts imitate the texts around them. -/
def imitating : Request :=
  ⟨"echo `date`", 1000, "top: 0;\n", "<p/>\n);\n\nexport const className = css", ""⟩

/-- Styles whose names and bodies imitate the texts around them. -/
def imitatingStyles : StyleMapping :=
  .ofList [("a = css", ";\nconst b = css"), ("// No CSS classes defined", "\n")]

theorem decode_recovers_parts_imitating :
    BacktickFree imitating imitatingStyles ∧
    decode (Artifact.of imitating imitatingStyles).text =
      some (parts imitating imitatingStyles) := by
  have hfree : BacktickFree imitating imitatingStyles :=
    ⟨by decide, by decide, by decide +kernel, by decide +kernel⟩
  exact ⟨hfree, (decode_recovers_parts hfree).1⟩

end Widget.Script

end WidgetForge
