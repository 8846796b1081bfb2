import ScriptReview.Proofs.CommandLine.Analyze
import ScriptReview.Proofs.Scan.BlankText

/-!
Reviews of blank text.

A review of blank text ends before the scan. The scan would have found nothing, so that the exit
code is the one that its report would have led to (`scan_blank_agrees`). A review that asks for an
example gives no verdict and ends on blank text like the others. That nothing but blank text is
skipped in this way shows in the issues: the code of each is not blank.
-/

namespace ScriptReview
namespace CommandLine
namespace Review

/-- The verdict of a report without issues. -/
theorem exitCode_reviewOutcome {report : Report} (h : report.issues = []) (name : String)
    (output : OutputConfig) (colored : Bool) (delay : Nat) :
    (reviewOutcome name report output colored delay).exitCode = 0 := by
  have hclean : report.isClean = true := List.isEmpty_iff.mpr h
  exact if_pos hclean

/-- A registry that a configuration sets up reports code that is a part of the line in question,
without a line feed, not empty and trimmed at both ends. In a blank text it finds neither issues nor
suggestions, and no functions and no complexity either. A review of blank text succeeds, and its
exit code is the one for the verdict on the report that is not made, whatever the name and the
output. -/
theorem scan_blank_agrees :
    (∀ (toggles : Toggles) (registry : Registry), Registry.ofToggles toggles = .ok registry →
      ∀ text : String,
        (∀ issue ∈ (registry.scan text).issues,
          ∃ before line, (Text.lines text.toList)[before]? = some line ∧
            issue.line = Count.clamp (before + 1) ∧ issue.ShowsCodeOf line) ∧
        (Text.trim text.toList = [] →
          (registry.scan text).issues = [] ∧ (registry.scan text).suggestions = [] ∧
            (registry.scan text).metrics.functions = Count.zero ∧
            (registry.scan text).metrics.complexity = Count.zero)) ∧
    ∀ (review : Review) (config : Config) (code : String),
      ConfigEnds review.access review.configPath (.ok config) → review.text? = some code →
      Text.trim code.toList = [] →
        review.outcome.exitCode = 0 ∧
        ∀ name output colored delay,
          (reviewOutcome name (reportOn code config) output colored delay).exitCode =
            review.outcome.exitCode := by
  have hrules := Registry.lineRules_switched_subset Registry.builtin
  have htemplates := Registry.templates_switched_subset Registry.builtin
  refine ⟨fun toggles registry h text => ?_, fun review config code hconfig htext hblank => ?_⟩
  · obtain rfl := Registry.eq_switched_of_ofToggles h
    refine ⟨fun issue hissue => ?_, fun hblank => ?_⟩
    · exact Registry.exists_line_of_mem_issues (hrules toggles.entries) hissue
    · exact Registry.scan_of_blank (hrules toggles.entries) (htemplates toggles.entries)
        (List.isEmpty_iff.mpr hblank)
  · have hissues : (reportOn code config).issues = [] :=
      (Registry.scan_of_blank (hrules config.rules.entries) (htemplates config.rules.entries)
        (List.isEmpty_iff.mpr hblank)).1
    have hcode := (outcome_of_blank hconfig htext hblank).1
    refine ⟨hcode, fun name output colored delay => ?_⟩
    rw [hcode, exitCode_reviewOutcome hissues]

/-- Blank characters of several kinds. -/
def blankText : String := "\t \uFEFF\n\u00A0"

theorem scan_blank_agrees_default :
    Registry.ofToggles Toggles.empty = .ok Registry.builtin ∧
      (Registry.builtin.scan "\uFEFF  return x \n").issues.map (·.code) = ["return x"] ∧
      (∀ issue ∈ (Registry.builtin.scan "\uFEFF  return x \n").issues,
        ∃ before line, (Text.lines "\uFEFF  return x \n".toList)[before]? = some line ∧
          issue.line = Count.clamp (before + 1) ∧ issue.ShowsCodeOf line) ∧
      Text.trim blankText.toList = [] ∧
      (Registry.builtin.scan blankText).issues = [] ∧
      (ofInput blankText.toUTF8).text? = some blankText ∧
      (ofInput blankText.toUTF8).outcome.exitCode = 0 := by
  have hregistry : Registry.ofToggles Toggles.empty = .ok Registry.builtin := by rfl
  have hblank : Text.trim blankText.toList = [] := by decide
  have hconfig : ConfigEnds (ofInput blankText.toUTF8).access (ofInput blankText.toUTF8).configPath
      (.ok Config.default) := .absent (by rfl)
  have htext : (ofInput blankText.toUTF8).text? = some blankText := by decide +kernel
  have hscan := scan_blank_agrees.1 Toggles.empty Registry.builtin hregistry
  have hreview := scan_blank_agrees.2 _ _ _ hconfig htext hblank
  exact ⟨hregistry, by decide, (hscan _).1, hblank, ((hscan _).2 hblank).1, htext, hreview.1⟩

end Review
end CommandLine
end ScriptReview
