import WidgetForge.Compiler.Compile
import WidgetForge.Proofs.Json.Grammar
import WidgetForge.Proofs.Widget.Script
import WidgetForge.Proofs.Widget.StyleMapping

/-!
# Which texts give styles

The text of the styles is a dictionary if it is an object whose keys all have strings for their last
values. Then every key has its declaration at the end of the script. Any other text counts as an
empty dictionary, with all that follows from it: nothing of it gets into the script, and nothing of
it is missed in the markup.
-/

namespace WidgetForge

namespace Widget.StyleMapping

open Json

/-! ### Dictionaries -/

theorem bodies_eq_some {members : List (String × Value)} {entries : List (String × String)} :
    bodies members = some entries ↔ members = textMembers entries := by
  constructor
  · intro h
    induction members generalizing entries with
    | nil =>
      rw [bodies, Option.some.injEq] at h
      rw [← h]
      rfl
    | cons m members ih =>
      obtain ⟨name, v⟩ := m
      cases v with
      | string body =>
        rw [bodies, Option.map_eq_some_iff] at h
        obtain ⟨others, hothers, rfl⟩ := h
        rw [ih hothers]
        rfl
      | null | bool b | number n | array items | object all => simp [bodies] at h
  · rintro rfl
    exact bodies_textMembers entries

theorem settle_eq_string {v : Value} {s : String} : v.settle = .string s ↔ v = .string s := by
  cases v <;> simp [Value.settle]

/-- Strings are last values of settled members if they are last values. -/
theorem lastOf_settleMembers {all : List (String × Value)} {entries : List (String × String)} :
    Keyed.LastOf (settleMembers all) (textMembers entries) ↔
      Keyed.LastOf all (textMembers entries) := by
  have hlast : (∀ m ∈ textMembers entries,
        (Keyed.valuesOf m.1 (settleMembers all)).getLast? = some m.2) ↔
      ∀ m ∈ textMembers entries, (Keyed.valuesOf m.1 all).getLast? = some m.2 := by
    refine forall₂_congr fun m hm => ?_
    obtain ⟨entry, -, rfl⟩ := List.mem_map.mp hm
    rw [settleMembers_eq_map, Keyed.valuesOf_map, List.getLast?_map, Option.map_eq_some_iff]
    simp only [Prod.map_snd, settle_eq_string, exists_eq_right]
  have hnames : Keyed.names (settleMembers all) = Keyed.names all := Record.names_settleMembers all
  constructor
  · exact fun h => ⟨hnames ▸ h.names, hlast.mp h.last⟩
  · exact fun h => ⟨hnames ▸ h.names, hlast.mpr h.last⟩

/-- **The texts that are dictionaries** are the objects whose keys all have strings for their last
values. -/
theorem dictionary_eq_some {text : String} {entries : List (String × String)} :
    dictionary text = some entries ↔ ∃ all, IsText depthLimit (.object all) text ∧
      Keyed.LastOf all (textMembers entries) := by
  simp only [← read_iff_isText]
  unfold dictionary Value.parse
  cases Value.read text with
  | error e => simp [Except.map]
  | ok v =>
    cases v with
    | object all =>
      simp only [Except.map, Value.settle, bodies_eq_some, Except.ok.injEq, Value.object.injEq,
        exists_eq_left']
      rw [← lastOf_settleMembers, Keyed.lastOf_iff, eq_comm]
    | null | bool b | number n | string s | array items => simp [Except.map, Value.settle]

/-- The entries of a dictionary are the entries of its mapping. -/
theorem entries_parse {text : String} {entries : List (String × String)}
    (h : dictionary text = some entries) : (parse text).entries = entries := by
  obtain ⟨all, -, hlast⟩ := dictionary_eq_some.mp h
  have hdistinct : (Keyed.names entries).Nodup := by
    have hnodup := Keyed.nodup_ofList all
    rwa [← Keyed.lastOf_iff.mp hlast, textMembers, Keyed.names_map] at hnodup
  rw [parse, h]
  exact Keyed.ofList_of_nodup hdistinct

theorem parse_of_none {text : String} (h : dictionary text = none) : parse text = empty := by
  rw [parse, h]

theorem parse_braces : parse "\x7b\x7d" = empty := by
  have hlisting : listing [] = "\x7b\x7d" := by decide
  rw [parse, ← hlisting, dictionary_listing]
  rfl

end Widget.StyleMapping

/-! ### The end of a script -/

/-- A script ends with its declarations. -/
theorem Widget.Artifact.exists_before_declarations (r : Widget.Request)
    (styles : Widget.StyleMapping) :
    ∃ before, (Artifact.of r styles).text = before ++ Script.declarations styles := by
  have hpieces : ∃ front, Script.pieces r styles = front ++ [Script.declarations styles] :=
    ⟨[Script.header, "\n", "/* ----- Übersicht exports ---- */\n\n"] ++ Script.exports r ++
      ["\n", "/* ----- local stuff ---- */\n\n"], rfl⟩
  obtain ⟨front, hfront⟩ := hpieces
  refine ⟨String.join front, ?_⟩
  rw [Artifact.text_of, hfront, String.join_append, String.join_cons, String.join_nil,
    String.append_empty]

namespace Compiler

open Json Widget

/-- The text of the styles matters for the script only by the mapping that it gives. -/
theorem generate_congr (o : Options) {r : Request} {styles : String}
    (h : StyleMapping.parse r.styles = StyleMapping.parse styles) :
    generate o r = generate o { r with styles := styles } := by
  unfold generate
  rw [h]
  rfl

/-- A script that is generated is the script of the request and its mapping. -/
theorem artifact_of_generate {o : Options} {r : Request} {artifact : Artifact}
    (h : generate o r = .ok artifact) :
    artifact = Artifact.of r (StyleMapping.parse r.styles) := by
  unfold generate at h
  split at h
  · exact nomatch h
  · split at h
    · exact nomatch h
    · exact (Except.ok.inj h).symm

/-- What is declared for the entries of a dictionary. -/
def declared (entries : List (String × String)) : String :=
  "\n".intercalate (entries.map fun entry => "const " ++ entry.1 ++ " = css`" ++ entry.2 ++ "`;")

/-- **Styles come all or not at all**: if their text is no object whose keys all have strings for
their last values, then the outcome is the one for an empty dictionary, whether unused styles are
errors or not. If it is such an object and has keys, then a script that is generated ends with one
declaration for each key, in the order in which the keys appear first, with the last body of
each. -/
theorem styles_all_or_none (o : Options) (r : Request) :
    ((∀ all entries, IsText depthLimit (.object all) r.styles →
        ¬ Keyed.LastOf all (StyleMapping.textMembers entries)) →
      generate o r = generate o { r with styles := "\x7b\x7d" }) ∧
    ∀ all entries, IsText depthLimit (.object all) r.styles →
      Keyed.LastOf all (StyleMapping.textMembers entries) → all ≠ [] →
      ∀ artifact, generate o r = .ok artifact →
        ∃ before, artifact.text = before ++ declared entries := by
  refine ⟨fun hnone => ?_, fun all entries htext hlast hne artifact hgenerate => ?_⟩
  · have hdictionary : StyleMapping.dictionary r.styles = none :=
      Option.eq_none_iff_forall_ne_some.mpr fun entries hentries => by
        obtain ⟨all, htext, hlast⟩ := StyleMapping.dictionary_eq_some.mp hentries
        exact hnone all entries htext hlast
    refine generate_congr o ?_
    rw [StyleMapping.parse_of_none hdictionary, StyleMapping.parse_braces]
  · have hentries := StyleMapping.entries_parse
      (StyleMapping.dictionary_eq_some.mpr ⟨all, htext, hlast⟩)
    have hnonempty : entries ≠ [] := by
      rintro rfl
      have hnames := hlast.names
      cases all with
      | nil => exact hne rfl
      | cons m all => simp [StyleMapping.textMembers, Keyed.names, List.eraseDups_cons] at hnames
    obtain rfl := artifact_of_generate hgenerate
    obtain ⟨before, hbefore⟩ :=
      Artifact.exists_before_declarations r (StyleMapping.parse r.styles)
    refine ⟨before, ?_⟩
    rw [hbefore, Script.declarations, hentries, if_neg (by simpa using hnonempty)]
    rfl

/-- A request with this text for its styles. -/
def styled (styles : String) : Request :=
  ⟨"date", 1000, "top: 10px;", "<p>\x7bdata\x7d</p>", styles⟩

theorem generate_styled (styles : String) :
    generate ⟨none, defaultFileName, false, false⟩ (styled styles) =
      .ok (Artifact.of (styled styles) (StyleMapping.parse styles)) := by
  have hcheck : (styled styles).check = .ok () := rfl
  rw [generate, hcheck]
  rfl

/-- The members of a dictionary that gives a name no string at first. -/
def corrected : List (String × Value) := [("a", .null), ("b", .string "y"), ("a", .string "x")]

theorem styles_all_or_none_corrected :
    (∃ artifact before, generate ⟨none, defaultFileName, false, false⟩
      (styled (Value.object corrected).text) = .ok artifact ∧
      artifact.text = before ++ "const a = css`x`;\nconst b = css`y`;") ∧
    generate ⟨none, defaultFileName, true, false⟩ (styled "") =
      generate ⟨none, defaultFileName, true, false⟩ (styled "\x7b\x7d") := by
  constructor
  · have htext : IsText depthLimit (.object corrected)
        (styled (Value.object corrected).text).styles :=
      isText_text (by simp [corrected, Value.Plain, Value.IsScalar, depthLimit])
    have hlast : Keyed.LastOf corrected (StyleMapping.textMembers [("a", "x"), ("b", "y")]) :=
      Keyed.lastOf_iff.mpr rfl
    have hgenerate := generate_styled (Value.object corrected).text
    obtain ⟨before, hends⟩ :=
      (styles_all_or_none _ _).2 corrected _ htext hlast (List.cons_ne_nil _ _) _ hgenerate
    exact ⟨_, before, hgenerate, hends⟩
  · refine (styles_all_or_none _ (styled "")).1 fun all entries htext => ?_
    cases read_iff_isText.mpr htext

/-- The members of a dictionary that gives a name deeply nested arrays at first. -/
def buried : List (String × Value) := [("a", .nest (depthLimit - 1)), ("a", .string "x")]

/-- The limit on brackets is in the way of some dictionaries: where a value is nested that deep, a
script is generated without styles, even if the value does not count. -/
theorem buried_gives_no_styles :
    IsText (depthLimit + 1) (.object buried) (styled (Value.object buried).text).styles ∧
    Keyed.LastOf buried (StyleMapping.textMembers [("a", "x")]) ∧
    ∃ artifact, generate ⟨none, defaultFileName, false, false⟩
        (styled (Value.object buried).text) = .ok artifact ∧
      ∀ before, artifact.text ≠ before ++ declared [("a", "x")] := by
  have htext : IsText (depthLimit + 1) (.object buried) (Value.object buried).text :=
    isText_text (List.forall_mem_cons.mpr ⟨plain_nest _, List.forall_mem_singleton.mpr trivial⟩)
  have hnone : StyleMapping.dictionary (Value.object buried).text = none := by
    refine Option.eq_none_iff_forall_ne_some.mpr fun entries hentries => ?_
    obtain ⟨all, htext', -⟩ := StyleMapping.dictionary_eq_some.mp hentries
    have hnested : (Value.object buried).Nested depthLimit := htext'.unique htext ▸ htext'.nested
    exact not_nested_nest (depthLimit - 1) (hnested _ List.mem_cons_self)
  refine ⟨htext, Keyed.lastOf_iff.mpr rfl, _, generate_styled _, fun before hends => ?_⟩
  rw [StyleMapping.parse_of_none hnone] at hends
  obtain ⟨front, hfront⟩ := Artifact.exists_before_declarations (styled (Value.object buried).text)
    .empty
  have hlast := congrArg (fun text => text.toList.getLast?) (hfront.symm.trans hends)
  simp [declared, Script.declarations, Script.noStyles, StyleMapping.empty] at hlast

end Compiler

end WidgetForge
