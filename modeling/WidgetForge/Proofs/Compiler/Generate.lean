import Mathlib.Data.List.Find
import WidgetForge.Compiler.Compile
import WidgetForge.Proofs.Text.Identifier

/-!
# Which requests get a script

A request has to keep some rules, and the first one that it breaks is reported. Beyond them a strict
compiler demands that the markup uses every style variable. It does not read the markup for that, it
looks for the names; but as long as the names are identifiers, it decides as if it had cut the
markup into its runs of identifier characters and compared each of them. A request that passes gets
the script that a compiler which is not strict gives it.
-/

namespace WidgetForge

namespace Widget.Request

/-- Something that a request has to be. -/
structure Rule where
  /-- What is reported of a request that is not so. -/
  violation : Violation
  /-- Whether a request is so. -/
  holds : Request → Bool

/-- What a request has to be, in the order in which it is reported. -/
def rules : List Rule :=
  [⟨.emptyCommand, fun r => r.command ≠ ""⟩, ⟨.intervalNotPositive, fun r => 0 < r.interval.toInt⟩,
    ⟨.emptyMarkup, fun r => r.markup ≠ ""⟩, ⟨.emptyPositioning, fun r => r.positioning ≠ ""⟩]

/-- The first rule that a request breaks. -/
def firstViolation (r : Request) : Option Violation :=
  (rules.find? fun rule => !rule.holds r).map Rule.violation

/-- A request passes the check if it breaks no rule. -/
theorem check_eq (r : Request) :
    r.check = match r.firstViolation with
      | some v => .error v
      | none => .ok () := by
  unfold check firstViolation rules
  by_cases hcommand : r.command = ""
  · simp [hcommand]
  by_cases hinterval : 0 < r.interval.toInt
  · by_cases hmarkup : r.markup = ""
    · simp [hcommand, hinterval, hmarkup]
    by_cases hpositioning : r.positioning = ""
    · simp [hcommand, hinterval, hmarkup, hpositioning]
    · simp [hcommand, hinterval, hmarkup, hpositioning]
  · simp [hcommand, hinterval, Int.not_lt.mp hinterval]

end Widget.Request

namespace Widget.StyleMapping

open Text

/-- The first name that is not among the runs of the markup. -/
def firstAbsent (m : StyleMapping) (markup : String) : Option String :=
  m.names.find? fun name => name ∉ identifierRuns markup

/-- A name that is an identifier is unused if it is none of the runs of the markup. -/
theorem firstUnused_eq_firstAbsent {m : StyleMapping} {markup : String}
    (hnames : ∀ name ∈ m.names, IsIdentifierName name.toList) :
    m.firstUnused markup = m.firstAbsent markup := by
  unfold firstUnused firstAbsent
  refine List.find?_congr fun name hmem => ?_
  have huse : references markup name = true ↔ name ∈ identifierRuns markup :=
    references_iff_mem_identifierRuns (hnames name hmem)
  rw [Bool.eq_iff_iff, Bool.not_eq_true', ← Bool.not_eq_true, huse, decide_eq_true_iff]

end Widget.StyleMapping

namespace Compiler

open Text Widget

/-- **Which requests get a script**: a request that breaks a rule is refused with the first rule
that it breaks. Any other request gets its script from a compiler that is not strict; and if all
style variables are identifiers, a strict compiler refuses it with the first of them that is none of
the runs of identifier characters in the markup, or gives it the same script if there is none. -/
theorem generate_by_runs (o : Options) (r : Request) :
    (∀ v, r.firstViolation = some v → generate o r = .error v) ∧
    (r.firstViolation = none →
      generate { o with strict := false } r = .ok (Artifact.of r (StyleMapping.parse r.styles)) ∧
      ((∀ name ∈ (StyleMapping.parse r.styles).names, IsIdentifierName name.toList) →
        (∀ name, (StyleMapping.parse r.styles).firstAbsent r.markup = some name →
          generate { o with strict := true } r = .error (.unusedStyle name)) ∧
        ((StyleMapping.parse r.styles).firstAbsent r.markup = none →
          generate { o with strict := true } r = generate { o with strict := false } r))) := by
  have hcheck := r.check_eq
  refine ⟨fun v hv => ?_, fun hnone => ?_⟩
  · rw [hv] at hcheck
    simp [generate, hcheck]
  rw [hnone] at hcheck
  refine ⟨by simp [generate, hcheck], fun hnames => ?_⟩
  have hunused : (StyleMapping.parse r.styles).firstUnused r.markup =
      (StyleMapping.parse r.styles).firstAbsent r.markup :=
    StyleMapping.firstUnused_eq_firstAbsent hnames
  refine ⟨fun name hname => ?_, fun hall => ?_⟩
  · rw [hname] at hunused
    simp [generate, hcheck, hunused]
  · rw [hall] at hunused
    simp [generate, hcheck, hunused]

/-- A request whose markup uses one of its style variables, and holds the name of the other one only
as a part of a longer identifier, twice and with an overlap. -/
def overlapping : Request :=
  ⟨"date", 1000, "top: 10px;", "<p className=\x7baaa\x7d id=\x7bb\x7d>\x7bdata\x7d</p>",
    "\x7b\"b\": \"\", \"aa\": \"color: red;\"\x7d"⟩

theorem generate_by_runs_overlapping :
    overlapping.firstViolation = none ∧
    (∀ name ∈ (StyleMapping.parse overlapping.styles).names, IsIdentifierName name.toList) ∧
    (StyleMapping.parse overlapping.styles).firstAbsent overlapping.markup = some "aa" ∧
    generate ⟨none, defaultFileName, true, false⟩ overlapping = .error (.unusedStyle "aa") := by
  have hpasses : overlapping.firstViolation = none := by decide +kernel
  have hnames : ∀ name ∈ (StyleMapping.parse overlapping.styles).names,
      IsIdentifierName name.toList := by decide +kernel
  have habsent : (StyleMapping.parse overlapping.styles).firstAbsent overlapping.markup =
      some "aa" := by decide +kernel
  refine ⟨hpasses, hnames, habsent, ?_⟩
  obtain ⟨-, hstrict⟩ :=
    (generate_by_runs ⟨none, defaultFileName, false, false⟩ overlapping).2 hpasses
  exact (hstrict hnames).1 "aa" habsent

end Compiler

end WidgetForge
