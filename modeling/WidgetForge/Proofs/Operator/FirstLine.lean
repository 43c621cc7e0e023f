import WidgetForge.Operator.Command
import WidgetForge.Proofs.Text.Blank
import WidgetForge.Proofs.Text.Lossy

/-!
# What a program answers

A program that has succeeded answers with the first line of its output that is not blank, trimmed,
and declines if there is none. The output is read leniently, so a line may hold anything. What is
printed before a line feed and what is printed behind it answer each by itself, and the first answer
counts (`answer_append`): so a program has answered once it has ended a line that is not blank, and
blank lines before it do not matter.
-/

namespace WidgetForge.Operator.Command

open Disk Text

/-- `Tells text path`: the first line of `text` that is not blank is `path`, but for the blanks at
its ends. -/
inductive Tells : List Char → List Char → Prop where
  /-- The first line is not blank. A line feed stands behind it, or it is the last line. -/
  | here {line behind path : List Char} : '\n' ∉ line → (∀ c ∈ behind.head?, c = '\n') →
      Trimmed line path → path ≠ [] → Tells (line ++ behind) path
  /-- A blank line is passed over. -/
  | later {line rest path : List Char} : '\n' ∉ line → (∀ c ∈ line, isBlank c = true) →
      Tells rest path → Tells (line ++ '\n' :: rest) path

/-- What a text tells has no blank at its ends and no line feed. -/
theorem Tells.clean {text path : List Char} (h : Tells text path) :
    path ≠ [] ∧ '\n' ∉ path ∧ (∀ c ∈ path.head?, isBlank c = false) ∧
      ∀ c ∈ path.getLast?, isBlank c = false := by
  induction h with
  | @here line behind path hline _ hpath hne =>
    refine ⟨hne, fun hfeed => hline ?_, hpath.first, hpath.last⟩
    obtain ⟨left, right, rfl, -, -⟩ := hpath.around
    exact List.mem_append_left _ (List.mem_append_right _ hfeed)
  | later _ _ _ ih => exact ih

/-! ### The first line of a text -/

/-- A text without a line feed is a single line. -/
theorem firstLine_line {line : List Char} (h : '\n' ∉ line) :
    firstLine (String.ofList line) =
      if trimChars line = [] then none else some (String.ofList (trimChars line)) := by
  rw [firstLine, String.toList_ofList, split_of_not_mem h, List.map_singleton]
  by_cases hempty : trimChars line = [] <;> simp [hempty]

theorem firstLine_line_eq_none {line : List Char} (h : '\n' ∉ line) :
    firstLine (String.ofList line) = none ↔ ∀ c ∈ line, isBlank c = true := by
  rw [firstLine_line h, ← trimChars_eq_nil]
  simp

theorem firstLine_line_eq_some {line : List Char} {path : String} (h : '\n' ∉ line) :
    firstLine (String.ofList line) = some path ↔
      Trimmed line path.toList ∧ path.toList ≠ [] := by
  rw [firstLine_line h, trimmed_iff]
  split_ifs with hempty
  · simp [hempty]
  · constructor
    · rintro ⟨⟩
      simpa using hempty
    · rintro ⟨hpath, -⟩
      rw [← hpath, String.ofList_toList]

/-- What stands before a line feed tells a path, or else what stands behind it does. -/
theorem firstLine_append (before behind : List Char) :
    firstLine (String.ofList (before ++ '\n' :: behind)) =
      (firstLine (String.ofList before)).or (firstLine (String.ofList behind)) := by
  simp only [firstLine, String.toList_ofList, split_append, List.map_append, List.find?_append,
    Option.map_or]

/-- Only a blank text has no line that is not blank. -/
theorem firstLine_eq_none {text : List Char} :
    firstLine (String.ofList text) = none ↔ ∀ c ∈ text, isBlank c = true := by
  induction text using induction_on_mark '\n' with
  | last line hline => exact firstLine_line_eq_none hline
  | more line rest hline ih =>
    have hfeed : isBlank '\n' = true := by decide
    rw [firstLine_append, Option.or_eq_none_iff, firstLine_line_eq_none hline, ih,
      List.forall_mem_append, List.forall_mem_cons]
    simp only [hfeed, true_and]

/-- The first line of a text is the path that the text tells. -/
theorem firstLine_eq_some {text : List Char} {path : String} :
    firstLine (String.ofList text) = some path ↔ Tells text path.toList := by
  constructor
  · intro h
    induction text using induction_on_mark '\n' with
    | last line hline =>
      obtain ⟨hpath, hne⟩ := (firstLine_line_eq_some hline).mp h
      rw [← List.append_nil line]
      exact .here hline (by simp) hpath hne
    | more line rest hline ih =>
      rw [firstLine_append, Option.or_eq_some_iff] at h
      rcases h with h | ⟨hblank, h⟩
      · obtain ⟨hpath, hne⟩ := (firstLine_line_eq_some hline).mp h
        exact .here hline (by simp) hpath hne
      · exact .later hline ((firstLine_line_eq_none hline).mp hblank) (ih h)
  · generalize hpath : path.toList = chars
    intro h
    induction h with
    | @here line behind chars hline hbehind htrim hne =>
      subst hpath
      have hfirst := (firstLine_line_eq_some hline).mpr ⟨htrim, hne⟩
      cases behind with
      | nil => rwa [List.append_nil]
      | cons c behind =>
        obtain rfl : c = '\n' := hbehind c rfl
        rw [firstLine_append, hfirst, Option.some_or]
    | later hline hblank _ ih =>
      rw [firstLine_append, (firstLine_line_eq_none hline).mpr hblank, Option.none_or, ih hpath]

/-! ### The answer -/

/-- A program that has succeeded answers with the path that its output tells. -/
theorem answer_eq_some {output : Octets} {path : Pathname} :
    answer ⟨true, output⟩ = some path ↔ Tells (Utf8.shown output) path.text.toList := by
  rw [← firstLine_eq_some]
  constructor
  · intro h
    obtain ⟨text, htext, rfl⟩ := Option.map_eq_some_iff.mp h
    exact htext
  · intro h
    exact congrArg (Option.map Pathname.mk) h

theorem answer_eq_none {output : Octets} :
    answer ⟨true, output⟩ = none ↔ ∀ c ∈ Utf8.shown output, isBlank c = true := by
  rw [← firstLine_eq_none]
  exact Option.map_eq_none_iff

/-- **What a program prints before a line feed answers, or else what it prints behind it.** -/
theorem answer_append (succeeded : Bool) (before behind : Octets) :
    answer ⟨succeeded, before ++ 10 :: behind⟩ =
      (answer ⟨succeeded, before⟩).or (answer ⟨succeeded, behind⟩) := by
  cases succeeded with
  | false => rfl
  | true =>
    have hread (octets : Octets) : answer ⟨true, octets⟩ =
        (firstLine (String.ofList (Utf8.shown octets))).map Pathname.mk := rfl
    rw [hread, hread, hread, Utf8.shown_append, firstLine_append, Option.map_or]

/-- A program that has ended a line which is not blank has answered. -/
theorem answer_of_ended {output : Octets} {before behind : List Char} (more : Octets)
    (h : Utf8.shown output = before ++ '\n' :: behind) (hline : ∃ c ∈ before, isBlank c = false) :
    answer ⟨true, output ++ more⟩ = answer ⟨true, output⟩ := by
  obtain ⟨first, rest, rfl, rfl, -⟩ := Utf8.exists_of_shown_eq h
  obtain ⟨c, hc, hblank⟩ := hline
  have hanswer : answer ⟨true, first⟩ ≠ none := by
    rw [Ne, answer_eq_none]
    exact fun hall => absurd (hall c hc) (by simp [hblank])
  obtain ⟨path, hpath⟩ := Option.ne_none_iff_exists'.mp hanswer
  rw [List.append_assoc, List.cons_append, answer_append, answer_append, hpath, Option.some_or,
    Option.some_or]

/-- Blank lines before its output do not change what a program answers. -/
theorem answer_of_blank_lines {above : List Octets} (output : Octets)
    (h : ∀ line ∈ above, ∃ body, line = body ++ [10] ∧ ∀ c ∈ Utf8.shown body, isBlank c = true) :
    answer ⟨true, above.flatten ++ output⟩ = answer ⟨true, output⟩ := by
  induction above with
  | nil => rfl
  | cons line above ih =>
    obtain ⟨body, rfl, hbody⟩ := h line List.mem_cons_self
    have hrest := ih fun other hother => h other (List.mem_cons_of_mem _ hother)
    rw [List.flatten_cons, List.append_assoc, List.append_assoc, List.singleton_append,
      answer_append, answer_eq_none.mpr hbody, Option.none_or, hrest]

/-- **A program answers with the first line of its output that is not blank**, trimmed, and declines
if there is no such line or if it has failed. Once it has ended this line it may print what it
likes, and blank lines before it do not matter. -/
theorem answer_is_first_line (output : Octets) :
    (∀ (c : Command) (programs : Programs) (s : Surroundings) (prompt : Prompt),
      (c.picker programs s prompt).1 =
        (programs { s with input := [] } c.program (c.arguments.map (expand prompt))).1.map
          answer) ∧
    answer ⟨false, output⟩ = none ∧
    (answer ⟨true, output⟩ = none ↔ allBlank (Utf8.decodeLossy output) = true) ∧
    (∀ path : Pathname, answer ⟨true, output⟩ = some path ↔
      Tells (Utf8.decodeLossy output).toList path.text.toList) ∧
    (∀ path : Pathname, answer ⟨true, output⟩ = some path →
      path.text ≠ "" ∧ '\n' ∉ path.text.toList ∧
        (∀ c ∈ path.text.toList.head?, isBlank c = false) ∧
        ∀ c ∈ path.text.toList.getLast?, isBlank c = false) ∧
    (∀ (before behind : List Char) (more : Octets),
      (Utf8.decodeLossy output).toList = before ++ '\n' :: behind →
      (∃ c ∈ before, isBlank c = false) →
      answer ⟨true, output ++ more⟩ = answer ⟨true, output⟩) ∧
    ∀ above : List Octets,
      (∀ line ∈ above, ∃ body, line = body ++ [10] ∧ allBlank (Utf8.decodeLossy body) = true) →
      answer ⟨true, above.flatten ++ output⟩ = answer ⟨true, output⟩ := by
  have hblank (octets : Octets) : allBlank (Utf8.decodeLossy octets) = true ↔
      ∀ c ∈ Utf8.shown octets, isBlank c = true := by
    rw [allBlank, Utf8.toList_decodeLossy, List.all_eq_true]
  simp only [hblank, Utf8.toList_decodeLossy]
  refine ⟨fun _ _ _ _ => rfl, rfl, answer_eq_none, fun _ => answer_eq_some, fun path hpath => ?_,
    fun _ _ more => answer_of_ended more, fun _ => answer_of_blank_lines output⟩
  obtain ⟨hne, hfeed, hfirst, hlast⟩ := (answer_eq_some.mp hpath).clean
  exact ⟨fun hempty => hne (by rw [hempty, String.toList_empty]), hfeed, hfirst, hlast⟩

/-- An output with a blank line, an octet that begins no sequence, and a sequence that the end cuts
off. -/
def ragged : Octets := [32, 13, 10, 9, 0xff, 47, 119, 13, 10, 0xe2, 0x80]

theorem answer_is_first_line_ragged :
    Utf8.decodeLossy ragged = " \r\n\t\ufffd/w\r\n\ufffd" ∧
    answer ⟨true, ragged⟩ = some ⟨"\ufffd/w"⟩ ∧
    answer ⟨true, ragged ++ [0x83, 10]⟩ = some ⟨"\ufffd/w"⟩ ∧
    answer ⟨true, [[0xe2, 0x80, 0x83, 10], [13, 10]].flatten ++ ragged⟩ =
      some ⟨"\ufffd/w"⟩ := by
  obtain ⟨-, -, -, -, -, hended, habove⟩ := answer_is_first_line ragged
  have hanswer : answer ⟨true, ragged⟩ = some ⟨"\ufffd/w"⟩ := by decide +kernel
  refine ⟨by decide +kernel, hanswer, ?_, ?_⟩
  · have hlines : (Utf8.decodeLossy ragged).toList =
        " \r\n\t\ufffd/w\r".toList ++ '\n' :: "\ufffd".toList := by decide +kernel
    rw [hended _ _ [0x83, 10] hlines ⟨'w', by decide, by decide⟩, hanswer]
  · have hblank : ∀ line ∈ ([[0xe2, 0x80, 0x83, 10], [13, 10]] : List Octets),
        ∃ body, line = body ++ [10] ∧ allBlank (Utf8.decodeLossy body) = true :=
      List.forall_mem_cons.mpr ⟨⟨[0xe2, 0x80, 0x83], rfl, by decide +kernel⟩,
        List.forall_mem_singleton.mpr ⟨[13], rfl, by decide +kernel⟩⟩
    rw [habove _ hblank, hanswer]

end WidgetForge.Operator.Command
