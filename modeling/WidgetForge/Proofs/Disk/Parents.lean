import WidgetForge.Disk.Pathname
import WidgetForge.Proofs.Text.Split

/-!
# The path above a path

The path without its last name is a beginning of the path, and its names are the first names of the
path, at least one less.
-/

namespace WidgetForge.Disk.Pathname

open Text

/-! ### Parts and names -/

theorem slash_not_mem_parts {p : Pathname} {part : String} (h : part ∈ p.parts) :
    '/' ∉ part.toList := by
  obtain ⟨piece, hpiece, rfl⟩ := List.mem_map.mp h
  rw [String.toList_ofList]
  exact not_mem_of_mem_split hpiece

theorem toList_intercalate_slash (parts : List String) :
    ("/".intercalate parts).toList = ['/'].intercalate (parts.map String.toList) :=
  String.toList_intercalate

/-- The parts with slashes between them make the path. -/
theorem intercalate_parts (p : Pathname) : "/".intercalate p.parts = p.text := by
  apply String.ext
  have hmap : p.parts.map String.toList = Text.split '/' p.text.toList := by
    simp [parts, Function.comp_def]
  rw [toList_intercalate_slash, hmap, split_eq_splitOn, List.intercalate_splitOn]

/-- Parts that hold no slash are the parts of the path that they make. -/
theorem parts_intercalate {parts : List String} (hslash : ∀ part ∈ parts, '/' ∉ part.toList)
    (hne : parts ≠ []) : Pathname.parts ⟨"/".intercalate parts⟩ = parts := by
  have hpieces : ∀ piece ∈ parts.map String.toList, '/' ∉ piece := by
    simpa using hslash
  rw [Pathname.parts, toList_intercalate_slash, split_eq_splitOn,
    List.splitOn_intercalate _ hpieces (by simpa using hne)]
  simp [Function.comp_def]

/-- Whether a part is a name. -/
def isName (part : String) : Bool := !part.isEmpty

theorem names_intercalate {parts : List String} (hslash : ∀ part ∈ parts, '/' ∉ part.toList) :
    names ⟨"/".intercalate parts⟩ = parts.filter isName := by
  by_cases hne : parts = []
  · subst hne
    rfl
  · rw [names, parts_intercalate hslash hne]
    rfl

/-- The names that the start of a path has. -/
def Start.names : Start → List String
  | .dot => ["."]
  | _ => []

/-- A slash between a first part and others. -/
theorem intercalate_cons_of_ne_nil (first : String) {parts : List String} (hne : parts ≠ []) :
    "/".intercalate (first :: parts) = first ++ "/" ++ "/".intercalate parts := by
  cases parts with
  | nil => exact absurd rfl hne
  | cons second parts => exact String.intercalate_cons_cons

theorem names_unsplit (start : Start) {parts : List String}
    (hslash : ∀ part ∈ parts, '/' ∉ part.toList) :
    (unsplit start parts).names = start.names ++ parts.filter isName := by
  have hdot : '/' ∉ ".".toList := by decide
  have hempty : '/' ∉ "".toList := by decide
  by_cases hne : parts = []
  · subst hne
    cases start <;> decide
  cases start with
  | root =>
    have htext : "/" ++ "/".intercalate parts = "/".intercalate ("" :: parts) := by
      rw [intercalate_cons_of_ne_nil "" hne, String.empty_append]
    rw [unsplit, htext, names_intercalate (List.forall_mem_cons.mpr ⟨hempty, hslash⟩)]
    rfl
  | dot =>
    have htext : "./" ++ "/".intercalate parts = "/".intercalate ("." :: parts) :=
      (intercalate_cons_of_ne_nil "." hne).symm
    rw [unsplit, if_neg (by simpa using hne), htext,
      names_intercalate (List.forall_mem_cons.mpr ⟨hdot, hslash⟩)]
    rfl
  | plain => exact names_intercalate hslash

/-- A path is put together again from its start and the parts behind it. -/
theorem unsplit_split (p : Pathname) : unsplit p.split.1 p.split.2 = p := by
  have htext := intercalate_parts p
  unfold Pathname.split
  split
  · next first rest hparts =>
    rw [hparts] at htext
    split_ifs with hdot hroot
    · subst hdot
      by_cases hne : rest = []
      · subst hne
        exact congrArg Pathname.mk htext
      · rw [intercalate_cons_of_ne_nil "." hne] at htext
        rw [unsplit, if_neg (by simpa using hne)]
        exact congrArg Pathname.mk htext
    · obtain ⟨hfirst, hne⟩ : first = "" ∧ rest ≠ [] := by simpa using hroot
      rw [hfirst, intercalate_cons_of_ne_nil "" hne, String.empty_append] at htext
      exact congrArg Pathname.mk htext
    · exact congrArg Pathname.mk htext
  · next hparts =>
    rw [hparts] at htext
    exact congrArg Pathname.mk htext

/-- No part behind the start holds a slash. -/
theorem slash_not_mem_split {p : Pathname} {part : String} (h : part ∈ p.split.2) :
    '/' ∉ part.toList := by
  refine slash_not_mem_parts (p := p) ?_
  unfold Pathname.split at h
  split at h
  · next first rest hparts =>
    rw [hparts]
    split_ifs at h
    · exact List.mem_cons_of_mem _ h
    · exact List.mem_cons_of_mem _ h
    · exact h
  · exact nomatch h

/-! ### Beginnings -/

/-- The path `q` is a beginning of the path `p`, and lacks at least one name of it. -/
structure Begins (q p : Pathname) : Prop where
  text : q.text.toList <+: p.text.toList
  names : ∃ more, more ≠ [] ∧ p.names = q.names ++ more

section

variable {p q : Pathname}

theorem Begins.hasNul (h : Begins q p) (hnul : p.hasNul = false) : q.hasNul = false := by
  unfold Pathname.hasNul at hnul ⊢
  simp only [List.contains_eq_mem, decide_eq_false_iff_not] at hnul ⊢
  exact fun hmem => hnul (h.text.subset hmem)

theorem Begins.utf8ByteSize_le (h : Begins q p) : q.text.utf8ByteSize ≤ p.text.utf8ByteSize := by
  obtain ⟨rest, hrest⟩ := h.text
  have htext : p.text = q.text ++ String.ofList rest := by
    apply String.ext
    rw [String.toList_append, String.toList_ofList, hrest]
  rw [htext, String.utf8ByteSize_append]
  exact Nat.le_add_right _ _

theorem Begins.isAbsolute (h : Begins q p) (hne : q.text ≠ "") : q.isAbsolute = p.isAbsolute := by
  obtain ⟨rest, hrest⟩ := h.text
  have hlist : q.text.toList ≠ [] := fun hnil => hne (String.ext hnil)
  unfold Pathname.isAbsolute
  rw [← hrest, List.head?_append_of_ne_nil _ hlist]

theorem Begins.length_lt (h : Begins q p) : q.text.length < p.text.length := by
  refine Nat.lt_of_le_of_ne h.text.length_le fun hlength => ?_
  have htext : q.text = p.text := String.ext (h.text.eq_of_length hlength)
  obtain ⟨more, hmore, hnames⟩ := h.names
  have hsame : q.names = p.names := by rw [show q = p from congrArg Pathname.mk htext]
  rw [hsame] at hnames
  exact hmore (List.self_eq_append_right.mp hnames)

theorem Begins.text_ne (h : Begins q p) : p.text ≠ "" := by
  intro hempty
  have hlength := h.length_lt
  rw [hempty] at hlength
  exact absurd hlength (Nat.not_lt_zero _)

end

theorem toList_unsplit_begins (start : Start) (first rest : List String) :
    (unsplit start first).text.toList <+: (unsplit start (first ++ rest)).text.toList := by
  have hprefix : ("/".intercalate first).toList <+: ("/".intercalate (first ++ rest)).toList := by
    rw [toList_intercalate_slash, toList_intercalate_slash, List.map_append]
    exact intercalate_prefix _ _ _
  cases start with
  | root =>
    simp only [unsplit, String.toList_append]
    exact (List.prefix_append_right_inj _).mpr hprefix
  | plain => exact hprefix
  | dot =>
    by_cases hfirst : first = []
    · subst hfirst
      by_cases hrest : rest = []
      · subst hrest
        exact List.prefix_refl _
      · have hdot : ".".toList <+: "./".toList := by decide
        have hleft : unsplit .dot [] = ⟨"."⟩ := rfl
        have hright : unsplit .dot rest = ⟨"./" ++ "/".intercalate rest⟩ := by
          rw [unsplit, if_neg (by simpa using hrest)]
        rw [List.nil_append, hleft, hright, String.toList_append]
        exact hdot.trans (List.prefix_append _ _)
    · rw [unsplit, unsplit, if_neg (by simpa using hfirst), if_neg (by simp [hfirst]),
        String.toList_append, String.toList_append]
      exact (List.prefix_append_right_inj _).mpr hprefix

/-- To leave out parts at the end, among them a name, is to leave a beginning. -/
theorem begins_unsplit (start : Start) {first rest : List String}
    (hslash : ∀ part ∈ first ++ rest, '/' ∉ part.toList) {name : String} (hmem : name ∈ rest)
    (hname : isName name = true) :
    Begins (unsplit start first) (unsplit start (first ++ rest)) := by
  refine ⟨toList_unsplit_begins start first rest, rest.filter isName, ?_, ?_⟩
  · exact List.ne_nil_of_mem (List.mem_filter.mpr ⟨hmem, hname⟩)
  · rw [names_unsplit start hslash,
      names_unsplit start fun part h => hslash part (List.mem_append_left rest h),
      List.filter_append, List.append_assoc]

/-- The parts of a path are those that are left when its last name is taken away, then this name
with idle parts around it. -/
theorem eq_append_of_backwards {parts before : List String} {name : String}
    (h : backwards parts = name :: before) :
    isIdle name = false ∧ ∃ rest, name ∈ rest ∧
      parts = (before.dropWhile isIdle).reverse ++ rest := by
  have hparts := List.takeWhile_append_dropWhile (p := isIdle) (l := parts.reverse)
  have hbefore := List.takeWhile_append_dropWhile (p := isIdle) (l := before)
  have hname := List.head_dropWhile_not isIdle (l := parts.reverse)
  rw [backwards] at h
  rw [h] at hparts hname
  refine ⟨hname (List.cons_ne_nil _ _), (before.takeWhile isIdle).reverse ++
    name :: (parts.reverse.takeWhile isIdle).reverse, by simp, ?_⟩
  have hback := congrArg List.reverse hbefore
  rw [List.reverse_append] at hback
  rw [← List.append_assoc, hback]
  simpa using (congrArg List.reverse hparts).symm

/-- **The path above a path is a beginning of it.** -/
theorem begins_of_parent? {p q : Pathname} (h : p.parent? = some q) : Begins q p := by
  have hwhole := unsplit_split p
  have hslash : ∀ part ∈ p.split.2, '/' ∉ part.toList := fun part => slash_not_mem_split
  unfold parent? at h
  cases hlast : backwards p.split.2 with
  | nil =>
    -- the path is a dot, which stands in the current folder
    rw [hlast] at h
    obtain ⟨hdot, rfl⟩ : p.split.1 = .dot ∧ q = ⟨""⟩ := by
      simp only at h
      split_ifs at h with hdot
      exact ⟨hdot, (Option.some.inj h).symm⟩
    refine ⟨List.nil_prefix, p.names, ?_, rfl⟩
    rw [← hwhole, names_unsplit _ hslash, hdot]
    exact List.cons_ne_nil _ _
  | cons name before =>
    rw [hlast] at h
    obtain ⟨hidle, rest, hmem, hparts⟩ := eq_append_of_backwards hlast
    have hname : isName name = true := by
      simp only [isIdle, Bool.or_eq_false_iff] at hidle
      simp [isName, hidle.1]
    rw [hparts] at hwhole hslash
    have hbegins := begins_unsplit p.split.1 hslash hmem hname
    rw [hwhole] at hbegins
    exact Option.some.inj h ▸ hbegins

example : Pathname.parent? ⟨"./a//b/./"⟩ = some ⟨"./a"⟩ := by decide +kernel

end WidgetForge.Disk.Pathname
