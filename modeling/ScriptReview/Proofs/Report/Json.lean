import ScriptReview.Proofs.Json.Fields
import ScriptReview.Report.Json

/-!
Records of a report as JSON.

For an issue, a suggestion, the figures and a whole report, which JSON values it is read from
(`Report.ofJson_eq_ok_iff` and its like). An object may have more fields than the record, before
them or after them, and in whatever order; what is written is such an object.
-/

namespace ScriptReview

open Schema Json

/-! ## Issues -/

theorem IssueKind.ofJson_eq_ok_iff {value : Json} {kind : IssueKind} :
    ofJson value = .ok kind ↔ value.Names kind.name :=
  asVariant_eq_ok_iff (by decide) (by cases kind <;> decide)

theorem Severity.ofJson_eq_ok_iff {value : Json} {severity : Severity} :
    ofJson value = .ok severity ↔ value.Names severity.name :=
  asVariant_eq_ok_iff (by decide) (by cases severity <;> decide)

namespace Issue

/-- The value has for each field of the issue what the issue has there. -/
def WrittenAs (issue : Issue) : Json → Prop :=
  IsRecord
    [("rule_id", (· = .string issue.ruleId.name)), ("type", (·.Names issue.kind.name)),
      ("line", (· = .ofNat issue.line.toNat)), ("message", (· = .string issue.message)),
      ("code", (· = .string issue.code)), ("severity", (·.Names issue.severity.name))]

/-- The fields are read in the order of their names from an object, and in the order of the record
from an array. -/
theorem ofJson_eq_ok_iff_isRecord {value : Json} {issue : Issue} :
    ofJson value = .ok issue ↔
      IsRecord
        [("rule_id", (asRuleId · = .ok issue.ruleId)),
          ("type", (IssueKind.ofJson · = .ok issue.kind)), ("line", (asCount · = .ok issue.line)),
          ("message", (asString · = .ok issue.message)), ("code", (asString · = .ok issue.code)),
          ("severity", (Severity.ofJson · = .ok issue.severity))] value := by
  cases value with
  | object fields =>
    simp only [isRecord_object_iff, List.forall_mem_cons, ← optional_eq_ok_iff]
    simp only [ofJson, ofFields, bind_eq_ok_iff, required_eq_ok_iff]
    constructor
    · rintro ⟨_, hcode, _, hline, _, hmessage, _, hruleId, _, hseverity, _, hkind, ruleId, rfl,
        kind, rfl, line, rfl, message, rfl, code, rfl, severity, rfl, hissue⟩
      cases hissue
      exact ⟨hruleId, hkind, hline, hmessage, hcode, hseverity, nofun⟩
    · rintro ⟨hruleId, hkind, hline, hmessage, hcode, hseverity, -⟩
      exact ⟨_, hcode, _, hline, _, hmessage, _, hruleId, _, hseverity, _, hkind, _, rfl, _, rfl,
        _, rfl, _, rfl, _, rfl, _, rfl, rfl⟩
  | array items =>
    simp only [isRecord_array_iff, forall₂_iff_zipIdx, List.zipIdx_cons, List.forall_mem_cons]
    simp only [ofJson, ofElements, bind_eq_ok_iff, element_eq_ok_iff, noFurther_eq_ok_iff]
    constructor
    · rintro ⟨ruleId, hruleId, kind, hkind, line, hline, message, hmessage, code, hcode, severity,
        hseverity, -, hlength, hissue⟩
      cases hissue
      exact ⟨hlength, hruleId, hkind, hline, hmessage, hcode, hseverity, nofun⟩
    · rintro ⟨hlength, hruleId, hkind, hline, hmessage, hcode, hseverity, -⟩
      exact ⟨_, hruleId, _, hkind, _, hline, _, hmessage, _, hcode, _, hseverity, (), hlength, rfl⟩
  | null | boolean | number | string => exact ⟨nofun, nofun⟩

theorem ofJson_eq_ok_iff {value : Json} {issue : Issue} :
    ofJson value = .ok issue ↔ issue.WrittenAs value := by
  rw [ofJson_eq_ok_iff_isRecord, WrittenAs]
  simp only [asRuleId_eq_ok_iff, asCount_eq_ok_iff, asString_eq_ok_iff,
    IssueKind.ofJson_eq_ok_iff, Severity.ofJson_eq_ok_iff]

theorem writtenAs_of_subset {fields : List (String × Json)} (h : (fields.map Prod.fst).Nodup)
    {issue : Issue} (hfields : issue.fields ⊆ fields) : issue.WrittenAs (.object fields) := by
  refine isRecord_of_subset h ?_ hfields
  simp [Issue.fields, Names, Count.toJson]

end Issue

/-! ## Suggestions -/

namespace Suggestion

def WrittenAs (suggestion : Suggestion) : Json → Prop :=
  IsRecord
    [("category", (· = .string suggestion.category)), ("title", (· = .string suggestion.title)),
      ("description", (· = .string suggestion.description)),
      ("example", (· = .string suggestion.exampleCode))]

theorem ofJson_eq_ok_iff_isRecord {value : Json} {suggestion : Suggestion} :
    ofJson value = .ok suggestion ↔
      IsRecord
        [("category", (asString · = .ok suggestion.category)),
          ("title", (asString · = .ok suggestion.title)),
          ("description", (asString · = .ok suggestion.description)),
          ("example", (asString · = .ok suggestion.exampleCode))] value := by
  cases value with
  | object fields =>
    simp only [isRecord_object_iff, List.forall_mem_cons, ← optional_eq_ok_iff]
    simp only [ofJson, ofFields, bind_eq_ok_iff, required_eq_ok_iff]
    constructor
    · rintro ⟨_, hcategory, _, hdescription, _, hexample, _, htitle, category, rfl, title, rfl,
        description, rfl, exampleCode, rfl, hsuggestion⟩
      cases hsuggestion
      exact ⟨hcategory, htitle, hdescription, hexample, nofun⟩
    · rintro ⟨hcategory, htitle, hdescription, hexample, -⟩
      exact ⟨_, hcategory, _, hdescription, _, hexample, _, htitle, _, rfl, _, rfl, _, rfl, _, rfl,
        rfl⟩
  | array items =>
    simp only [isRecord_array_iff, forall₂_iff_zipIdx, List.zipIdx_cons, List.forall_mem_cons]
    simp only [ofJson, ofElements, bind_eq_ok_iff, element_eq_ok_iff, noFurther_eq_ok_iff]
    constructor
    · rintro ⟨category, hcategory, title, htitle, description, hdescription, exampleCode, hexample,
        -, hlength, hsuggestion⟩
      cases hsuggestion
      exact ⟨hlength, hcategory, htitle, hdescription, hexample, nofun⟩
    · rintro ⟨hlength, hcategory, htitle, hdescription, hexample, -⟩
      exact ⟨_, hcategory, _, htitle, _, hdescription, _, hexample, (), hlength, rfl⟩
  | null | boolean | number | string => exact ⟨nofun, nofun⟩

theorem ofJson_eq_ok_iff {value : Json} {suggestion : Suggestion} :
    ofJson value = .ok suggestion ↔ suggestion.WrittenAs value := by
  rw [ofJson_eq_ok_iff_isRecord, WrittenAs]
  simp only [asString_eq_ok_iff]

theorem writtenAs_of_subset {fields : List (String × Json)} (h : (fields.map Prod.fst).Nodup)
    {suggestion : Suggestion} (hfields : suggestion.fields ⊆ fields) :
    suggestion.WrittenAs (.object fields) := by
  refine isRecord_of_subset h ?_ hfields
  simp [Suggestion.fields]

end Suggestion

/-! ## Figures -/

namespace Metrics

def WrittenAs (metrics : Metrics) : Json → Prop :=
  IsRecord
    [("lines", (· = .ofNat metrics.lines.toNat)), ("functions", (· = .ofNat metrics.functions.toNat)),
      ("complexity", (· = .ofNat metrics.complexity.toNat)),
      ("maintainability", (· = .ofNat metrics.maintainability.toNat))]

theorem ofJson_eq_ok_iff_isRecord {value : Json} {metrics : Metrics} :
    ofJson value = .ok metrics ↔
      IsRecord
        [("lines", (asCount · = .ok metrics.lines)),
          ("functions", (asCount · = .ok metrics.functions)),
          ("complexity", (asCount · = .ok metrics.complexity)),
          ("maintainability", (asCount · = .ok metrics.maintainability))] value := by
  cases value with
  | object fields =>
    simp only [isRecord_object_iff, List.forall_mem_cons, ← optional_eq_ok_iff]
    simp only [ofJson, ofFields, bind_eq_ok_iff, required_eq_ok_iff]
    constructor
    · rintro ⟨_, hcomplexity, _, hfunctions, _, hlines, _, hmaintainability, lines, rfl, functions,
        rfl, complexity, rfl, maintainability, rfl, hmetrics⟩
      cases hmetrics
      exact ⟨hlines, hfunctions, hcomplexity, hmaintainability, nofun⟩
    · rintro ⟨hlines, hfunctions, hcomplexity, hmaintainability, -⟩
      exact ⟨_, hcomplexity, _, hfunctions, _, hlines, _, hmaintainability, _, rfl, _, rfl, _, rfl,
        _, rfl, rfl⟩
  | array items =>
    simp only [isRecord_array_iff, forall₂_iff_zipIdx, List.zipIdx_cons, List.forall_mem_cons]
    simp only [ofJson, ofElements, bind_eq_ok_iff, element_eq_ok_iff, noFurther_eq_ok_iff]
    constructor
    · rintro ⟨lines, hlines, functions, hfunctions, complexity, hcomplexity, maintainability,
        hmaintainability, -, hlength, hmetrics⟩
      cases hmetrics
      exact ⟨hlength, hlines, hfunctions, hcomplexity, hmaintainability, nofun⟩
    · rintro ⟨hlength, hlines, hfunctions, hcomplexity, hmaintainability, -⟩
      exact ⟨_, hlines, _, hfunctions, _, hcomplexity, _, hmaintainability, (), hlength, rfl⟩
  | null | boolean | number | string => exact ⟨nofun, nofun⟩

theorem ofJson_eq_ok_iff {value : Json} {metrics : Metrics} :
    ofJson value = .ok metrics ↔ metrics.WrittenAs value := by
  rw [ofJson_eq_ok_iff_isRecord, WrittenAs]
  simp only [asCount_eq_ok_iff]

theorem writtenAs_of_subset {fields : List (String × Json)} (h : (fields.map Prod.fst).Nodup)
    {metrics : Metrics} (hfields : metrics.fields ⊆ fields) :
    metrics.WrittenAs (.object fields) := by
  refine isRecord_of_subset h ?_ hfields
  simp [Metrics.fields, Count.toJson]

end Metrics

/-! ## Whole reports -/

namespace Report

def WrittenAs (report : Report) : Json → Prop :=
  IsRecord
    [("issues", (WritesList Issue.WrittenAs report.issues ·)),
      ("suggestions", (WritesList Suggestion.WrittenAs report.suggestions ·)),
      ("metrics", report.metrics.WrittenAs)]

theorem ofJson_eq_ok_iff_isRecord {value : Json} {report : Report} :
    ofJson value = .ok report ↔
      IsRecord
        [("issues", (asList Issue.ofJson · = .ok report.issues)),
          ("suggestions", (asList Suggestion.ofJson · = .ok report.suggestions)),
          ("metrics", (Metrics.ofJson · = .ok report.metrics))] value := by
  cases value with
  | object fields =>
    simp only [isRecord_object_iff, List.forall_mem_cons, ← optional_eq_ok_iff]
    simp only [ofJson, ofFields, bind_eq_ok_iff, required_eq_ok_iff]
    constructor
    · rintro ⟨_, hissues, _, hmetrics, _, hsuggestions, issues, rfl, suggestions, rfl, metrics, rfl,
        hreport⟩
      cases hreport
      exact ⟨hissues, hsuggestions, hmetrics, nofun⟩
    · rintro ⟨hissues, hsuggestions, hmetrics, -⟩
      exact ⟨_, hissues, _, hmetrics, _, hsuggestions, _, rfl, _, rfl, _, rfl, rfl⟩
  | array items =>
    simp only [isRecord_array_iff, forall₂_iff_zipIdx, List.zipIdx_cons, List.forall_mem_cons]
    simp only [ofJson, ofElements, bind_eq_ok_iff, element_eq_ok_iff, noFurther_eq_ok_iff]
    constructor
    · rintro ⟨issues, hissues, suggestions, hsuggestions, metrics, hmetrics, -, hlength, hreport⟩
      cases hreport
      exact ⟨hlength, hissues, hsuggestions, hmetrics, nofun⟩
    · rintro ⟨hlength, hissues, hsuggestions, hmetrics, -⟩
      exact ⟨_, hissues, _, hsuggestions, _, hmetrics, (), hlength, rfl⟩
  | null | boolean | number | string => exact ⟨nofun, nofun⟩

theorem ofJson_eq_ok_iff {value : Json} {report : Report} :
    ofJson value = .ok report ↔ report.WrittenAs value := by
  rw [ofJson_eq_ok_iff_isRecord, WrittenAs]
  simp only [asList_eq_ok_iff, Issue.ofJson_eq_ok_iff, Suggestion.ofJson_eq_ok_iff,
    Metrics.ofJson_eq_ok_iff, WritesList]

end Report
end ScriptReview
