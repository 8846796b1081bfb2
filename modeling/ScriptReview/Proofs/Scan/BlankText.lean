import ScriptReview.Proofs.Report.Occurrences
import ScriptReview.Proofs.Scan.Sources
import ScriptReview.Proofs.Text.Trim

/-!
Blank texts and reported code.

Whatever the built-in rules, the triggers and the markers look for has a character in it that
trimming keeps. None of it is found in a blank text, of which a scan has therefore nothing to report
(`scan_of_blank`), and a line with any of it is not blank, so that an issue always shows some code
(`exists_line_of_mem_issues`).
-/

namespace ScriptReview
namespace Text

/-- The parts of a blank text are blank. -/
theorem isAllBlank_of_isInfix {part text : List Char} (h : part <:+: text)
    (hblank : isAllBlank text = true) : isAllBlank part = true :=
  isAllBlank_iff.mpr fun c hc => isAllBlank_iff.mp hblank c (h.subset hc)

/-- A pattern that is not blank is not found in a blank text. -/
theorem not_occurs_of_isAllBlank {pattern text : List Char} (hpattern : isAllBlank pattern = false)
    (hblank : isAllBlank text = true) : ¬occurs pattern text = true := by
  intro h
  rw [isAllBlank_of_isInfix (occurs_iff_isInfix.mp h) hblank] at hpattern
  cases hpattern

end Text

/-- The code of the issue is a part of the line, without a line feed, that is not empty and neither
begins nor ends with a blank character. -/
structure Issue.ShowsCodeOf (issue : Issue) (line : List Char) : Prop where
  code_ne : issue.code ≠ ""
  newline_notMem : '\n' ∉ issue.code.toList
  head_visible : ∀ c ∈ issue.code.toList.head?, Text.isBlank c = false
  last_visible : ∀ c ∈ issue.code.toList.getLast?, Text.isBlank c = false
  part : issue.code.toList <:+: line

/-! ## Flagged lines -/

/-- Every built-in rule looks for something that is not blank. -/
theorem Builtin.isAllBlank_of_flags {rule : LineRule} (h : rule ∈ lineRules) {line : List Char}
    (hflags : rule.flags line = true) : Text.isAllBlank line = false := by
  have hpiece : ∀ piece : String, Text.isAllBlank piece.toList = false →
      holds line piece = true → Text.isAllBlank line = false := fun piece hvisible hholds =>
    Bool.eq_false_iff.mpr fun hblank => Text.not_occurs_of_isAllBlank hvisible hblank hholds
  simp only [lineRules, List.mem_cons, List.not_mem_nil, or_false] at h
  rcases h with rfl | rfl | rfl
  · exact hpiece "var " (by decide) hflags
  · exact hpiece " == " (by decide) (Bool.and_eq_true_iff.mp hflags).1
  · exact hpiece "return " (by decide) (Bool.and_eq_true_iff.mp hflags).2

theorem LineRule.showsCodeOf_issueOn (rule : LineRule) (number : Count) {line : List Char}
    (hnewline : '\n' ∉ line) (hblank : Text.isAllBlank line = false) :
    (rule.issueOn number (Text.trim line)).ShowsCodeOf line := by
  have hcode : (rule.issueOn number (Text.trim line)).code.toList = Text.trim line :=
    String.toList_ofList
  have hne : Text.trim line ≠ [] := List.isEmpty_eq_false_iff.mp hblank
  refine ⟨fun hempty => ?_, ?_, ?_, ?_, ?_⟩
  · rw [hempty] at hcode
    exact hne hcode.symm
  · rw [hcode]
    exact fun hmem => hnewline (Text.mem_of_mem_trim hmem)
  · rw [hcode]
    exact fun c hc => Text.head?_trimBy hc
  · rw [hcode]
    exact fun c hc => Text.getLast?_trimBy hc
  · rw [hcode]
    exact Text.trimBy_isInfix Text.isBlank line

namespace Registry

variable {registry : Registry} {text : String}

theorem exists_line_of_mem_issues (hrules : registry.lineRules ⊆ Builtin.lineRules) {issue : Issue}
    (h : issue ∈ (registry.scan text).issues) :
    ∃ before line, (Text.lines text.toList)[before]? = some line ∧
      issue.line = Count.clamp (before + 1) ∧ issue.ShowsCodeOf line := by
  obtain ⟨before, line, hline, rule, hrule, hflags, rfl⟩ := mem_issues_iff.mp h
  have hnewline := Text.newline_notMem_of_mem_lines (List.mem_of_getElem? hline)
  have hblank := Builtin.isAllBlank_of_flags (hrules hrule) hflags
  exact ⟨before, line, hline, rfl, rule.showsCodeOf_issueOn _ hnewline hblank⟩

/-! ## Blank texts -/

theorem scan_of_blank (hrules : registry.lineRules ⊆ Builtin.lineRules)
    (htemplates : registry.templates ⊆ Builtin.templates)
    (hblank : Text.isAllBlank text.toList = true) :
    (registry.scan text).issues = [] ∧ (registry.scan text).suggestions = [] ∧
      (registry.scan text).metrics.functions = Count.zero ∧
      (registry.scan text).metrics.complexity = Count.zero := by
  have hmarkers : ∀ marker ∈ Metrics.functionMarkers ++ Metrics.complexityMarkers,
      Text.isAllBlank marker.toList = false := by decide
  have htriggers : ∀ template ∈ Builtin.templates,
      Text.isAllBlank template.trigger.toList = false := by decide
  refine ⟨?_, ?_, ?_, ?_⟩
  · refine List.eq_nil_iff_forall_not_mem.mpr fun issue hissue => ?_
    obtain ⟨before, line, hline, rule, hrule, hflags, -⟩ := mem_issues_iff.mp hissue
    have hpart := Text.infix_of_mem_lines (List.mem_of_getElem? hline)
    have hvisible := Builtin.isAllBlank_of_flags (hrules hrule) hflags
    rw [Text.isAllBlank_of_isInfix hpart hblank] at hvisible
    cases hvisible
  · have hnone : registry.templates.filter (·.applies text.toList) = [] :=
      List.filter_eq_nil_iff.mpr fun template htemplate =>
        Text.not_occurs_of_isAllBlank (htriggers template (htemplates htemplate)) hblank
    rw [scan, scanChars, suggestions, hnone, List.map_nil]
  · refine Count.eq_zero_of_not_pos fun hpositive => ?_
    obtain ⟨marker, hmarker, hoccurs⟩ :=
      Metrics.declaresFunction_iff.mp (Metrics.functionCount_pos_iff.mp hpositive)
    have hvisible := hmarkers marker (List.mem_append_left _ hmarker)
    exact Text.not_occurs_of_isAllBlank hvisible hblank hoccurs
  · refine Count.eq_zero_of_not_pos fun hpositive => ?_
    obtain ⟨marker, hmarker, hoccurs⟩ := Metrics.complexityScore_pos_iff.mp hpositive
    have hvisible := hmarkers marker (List.mem_append_right _ hmarker)
    exact Text.not_occurs_of_isAllBlank hvisible hblank hoccurs

end Registry
end ScriptReview
