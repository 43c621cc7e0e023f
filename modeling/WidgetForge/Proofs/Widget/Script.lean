import Mathlib
import WidgetForge.Proofs.Json.Numbers
import WidgetForge.Proofs.Text.First
import WidgetForge.Proofs.Widget.Literal
import WidgetForge.Widget.Script

/-!
# What a script says about its command

The command and the refresh interval are the first two exports of a script. A reader of scripts who
looks for the first command export and reads the literal behind it gets the command of the request,
and finds the interval right behind the literal. So a script determines both, whatever the command,
the markup, the positioning and the styles hold.
-/

namespace WidgetForge.Widget

/-! ### The text of a script -/

namespace Generator

/-- Pieces are written one behind the other. -/
theorem buffer_foldl_push (g : Generator) (pieces : List String) :
    (pieces.foldl push g).buffer = g.buffer ++ String.join pieces := by
  induction pieces generalizing g with
  | nil => simp
  | cons piece pieces ih => simp [ih, push, String.append_assoc]

end Generator

/-- A script is made of its pieces. -/
theorem Artifact.text_of (r : Request) (styles : StyleMapping) :
    (Artifact.of r styles).text = String.join (Script.pieces r styles) := by
  show ((Script.pieces r styles).foldl Generator.push Generator.fresh).buffer = _
  rw [Generator.buffer_foldl_push]
  simp [Generator.fresh]

namespace Script

/-- What every script begins with. -/
def lead : String := header ++ "\n" ++ "/* ----- Übersicht exports ---- */\n\n"

/-- What stands before the literal of the command, its opening quote included. -/
def commandOpening : String := "export const command = \""

/-- What stands before the refresh interval. -/
def intervalOpening : String := "export const refreshFrequency = "

/-- What stands behind the command in a script, from the end of its line on. -/
def behindCommand (r : Request) : List Char :=
  '\n' :: (intervalOpening.toList ++ ((toString r.interval.toInt).toList ++ ['\n', '\n']))

/-- What stands in a script behind the refresh interval and the blank line. -/
def behindInterval (r : Request) (styles : StyleMapping) : List Char :=
  ((exports r).drop 6).flatMap String.toList ++
    ["\n", "/* ----- local stuff ---- */\n\n", declarations styles].flatMap String.toList

/-- The characters of a script around its command and its interval. -/
theorem toList_text_of (r : Request) (styles : StyleMapping) :
    (Artifact.of r styles).text.toList =
      lead.toList ++ commandOpening.toList ++
        (Literal.escapeChars r.command.toList ++
          '"' :: (behindCommand r ++ behindInterval r styles)) := by
  have hquote : "\"\n".toList = ['"', '\n'] := by decide
  have hblank : "\n\n".toList = ['\n', '\n'] := by decide
  rw [Artifact.text_of, String.toList_join]
  simp only [pieces, exports, lead, behindCommand, behindInterval, commandOpening, intervalOpening,
    Literal.escape, List.flatMap_cons, List.flatMap_nil, List.cons_append, List.nil_append,
    List.append_nil, List.append_assoc, String.toList_append, String.toList_ofList, hquote, hblank,
    List.drop_succ_cons, List.drop_zero]

/-- No double quote stands in the lead of a script. -/
theorem quote_not_mem_lead : '"' ∉ lead.toList := by
  have hpieces : lead.toList =
      "import \x7b css \x7d from 'uebersicht'; ".toList ++
        "// Optional, use when Emotion's css functions are needed.\n".toList ++
        "import \x7b styled \x7d from 'uebersicht'; ".toList ++
        "// Optional, use when Emotion styled functions are needed.\n".toList ++
        "\n".toList ++ "/* ----- Übersicht exports ---- */\n\n".toList := by
    unfold lead header
    repeat rw [String.toList_append]
  rw [hpieces]
  decide +kernel

/-- The command export is found behind the lead of a script: it ends in the first double quote. -/
theorem firstAt_commandOpening (behind : List Char) :
    Text.FirstAt commandOpening.toList (lead.toList ++ commandOpening.toList ++ behind)
      lead.toList behind := by
  have hmark : commandOpening.toList = "export const command = ".toList ++ ['"'] := by decide
  rw [hmark]
  exact Text.firstAt_of_last quote_not_mem_lead (by decide) behind

/-! ### The interval -/

/-- What two texts without a character have before it is the same, if the texts up to it and beyond
are the same. -/
theorem append_cons_inj_of_not_mem {c : Char} {a b x y : List Char} (ha : c ∉ a) (hb : c ∉ b)
    (h : a ++ c :: x = b ++ c :: y) : a = b := by
  have hstop (l t : List Char) (hl : c ∉ l) : (l ++ c :: t).takeWhile (· ≠ c) = l := by
    have hne : ∀ d ∈ l, (d ≠ c) = true := fun d hd => by
      simpa using ne_of_mem_of_not_mem hd hl
    rw [List.takeWhile_append_of_pos (by simpa using hne)]
    simp
  rw [← hstop a x ha, ← hstop b y hb, h]

/-- What stands behind the command determines the interval. -/
theorem interval_eq_of_behindCommand {r r' : Request} {rest rest' : List Char}
    (h : behindCommand r ++ rest = behindCommand r' ++ rest') : r.interval = r'.interval := by
  simp only [behindCommand, List.cons_append, List.append_assoc, List.cons.injEq, true_and,
    List.append_cancel_left_eq, List.nil_append] at h
  have htext := append_cons_inj_of_not_mem (Json.control_not_mem_toString (by decide) _)
    (Json.control_not_mem_toString (by decide) _) h
  rw [String.toList_inj, Int.toString_eq_repr, Int.toString_eq_repr, Int.repr_inj] at htext
  exact Int64.toInt_inj.mp htext

/-! ### The command -/

/-- **The command of a script reads back**: the first command export of a script is followed by the
escaped command and a quote, a reader of literals who starts there stops at this quote and has read
the command, and the refresh interval stands on the next line, before a blank one. So scripts that
are the same have the same command and the same interval. -/
theorem command_and_interval_read_back (r : Request) (styles : StyleMapping) :
    (∃ before behind rest,
      Text.FirstAt commandOpening.toList (Artifact.of r styles).text.toList before behind ∧
      behind = (Literal.escape r.command).toList ++ '"' :: (behindCommand r ++ rest) ∧
      Literal.read behind = some (r.command.toList, behindCommand r ++ rest)) ∧
    ∀ (r' : Request) (styles' : StyleMapping), Artifact.of r styles = Artifact.of r' styles' →
      r.command = r'.command ∧ r.interval = r'.interval := by
  have hread (r : Request) (styles : StyleMapping) :
      ∃ before behind, Text.FirstAt commandOpening.toList (Artifact.of r styles).text.toList
          before behind ∧
        behind = (Literal.escape r.command).toList ++
          '"' :: (behindCommand r ++ behindInterval r styles) ∧
        Literal.read behind =
          some (r.command.toList, behindCommand r ++ behindInterval r styles) := by
    refine ⟨lead.toList, _, ?_, rfl, ?_⟩
    · rw [toList_text_of, Literal.escape, String.toList_ofList]
      exact firstAt_commandOpening _
    · rw [Literal.escape, String.toList_ofList, Literal.read_escapeChars]
  obtain ⟨before, behind, hfirst, hbehind, hlit⟩ := hread r styles
  refine ⟨⟨before, behind, _, hfirst, hbehind, hlit⟩, fun r' styles' heq => ?_⟩
  obtain ⟨before', behind', hfirst', -, hlit'⟩ := hread r' styles'
  rw [← heq] at hfirst'
  obtain ⟨-, rfl⟩ := hfirst.unique hfirst'
  simp only [hlit, Option.some.injEq, Prod.mk.injEq, String.toList_inj] at hlit'
  exact ⟨hlit'.1, interval_eq_of_behindCommand hlit'.2⟩

end Script

end WidgetForge.Widget
