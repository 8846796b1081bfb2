import ScriptReview.Report.Json

/-!
Reports for programs: one JSON object on each line.

Issues come first, then suggestions with their numbers, then the figures together with the numbers
of issues and suggestions. The view leaves out groups of records and changes none.
-/

namespace ScriptReview

namespace Issue

def record (issue : Issue) : Json :=
  .object (("record", .string "issue") :: issue.fields)

end Issue

namespace Suggestion

/-- A suggestion with its number in the report. -/
def record (number : Nat) (suggestion : Suggestion) : Json :=
  .object (("record", .string "suggestion") :: ("index", Json.ofNat number) :: suggestion.fields)

/-- Records of suggestions, of which the first has the given number. -/
def records : Nat → List Suggestion → List Json
  | _, [] => []
  | number, first :: more => first.record number :: records (number + 1) more

end Suggestion

namespace Metrics

/-- The figures with the numbers of issues and suggestions in the report. -/
def record (issues suggestions : Nat) (metrics : Metrics) : Json :=
  .object
    (("record", .string "metrics") :: metrics.fields ++
      [("issues", Json.ofNat issues), ("suggestions", Json.ofNat suggestions)])

end Metrics

namespace Json

/-- Values on lines of their own. -/
def renderLines (values : List Json) : String :=
  String.join (values.map fun value => value.render ++ "\n")

end Json

namespace Report

/-- The records of a report that the view shows. -/
def records (view : View) (report : Report) : List Json :=
  (if view.showsIssues then report.issues.map Issue.record else []) ++
    (if view.showsSuggestions then Suggestion.records 1 report.suggestions else []) ++
    if view.showsMetrics then
      [report.metrics.record report.issues.length report.suggestions.length]
    else []

/-- The records, each on its line. -/
def jsonLines (view : View) (report : Report) : String :=
  Json.renderLines (report.records view)

end Report
end ScriptReview
