import ScriptReview.Json.Decode
import ScriptReview.Json.Printer
import ScriptReview.Registry.Toggles
import ScriptReview.Report.Basic

/-!
Reports as JSON, in both directions.

Writing keeps the fields in the order of the record. Reading takes them in any order, passes over
fields that it does not know, and takes an array of the fields as well.
-/

namespace ScriptReview

open Schema

def Count.toJson (count : Count) : Json := Json.ofNat count.toNat

namespace IssueKind

def ofJson (value : Json) : Except Mismatch IssueKind := Json.asVariant all name value

end IssueKind

namespace Severity

def ofJson (value : Json) : Except Mismatch Severity := Json.asVariant all name value

end Severity

namespace View

def ofJson (value : Json) : Except Mismatch View := Json.asVariant every name value

end View

namespace Issue

def fields (issue : Issue) : List (String × Json) :=
  [("rule_id", .string issue.ruleId.name), ("type", .string issue.kind.name),
    ("line", issue.line.toJson), ("message", .string issue.message), ("code", .string issue.code),
    ("severity", .string issue.severity.name)]

def toJson (issue : Issue) : Json := .object issue.fields

def ofFields (fields : List (String × Json)) : Except Mismatch Issue := do
  let code ← Json.optional fields "code" Json.asString
  let line ← Json.optional fields "line" Json.asCount
  let message ← Json.optional fields "message" Json.asString
  let ruleId ← Json.optional fields "rule_id" Json.asRuleId
  let severity ← Json.optional fields "severity" Severity.ofJson
  let kind ← Json.optional fields "type" IssueKind.ofJson
  let ruleId ← required "rule_id" ruleId
  let kind ← required "type" kind
  let line ← required "line" line
  let message ← required "message" message
  let code ← required "code" code
  let severity ← required "severity" severity
  return { ruleId, kind, line, message, code, severity }

def ofElements (items : List Json) : Except Mismatch Issue := do
  let expected := elementsOf "struct Issue" 6
  let ruleId ← Json.element items 0 expected Json.asRuleId
  let kind ← Json.element items 1 expected IssueKind.ofJson
  let line ← Json.element items 2 expected Json.asCount
  let message ← Json.element items 3 expected Json.asString
  let code ← Json.element items 4 expected Json.asString
  let severity ← Json.element items 5 expected Severity.ofJson
  Json.noFurther items 6
  return { ruleId, kind, line, message, code, severity }

def ofJson : Json → Except Mismatch Issue
  | .object fields => ofFields fields
  | .array items => ofElements items
  | other => .error (.wrongType other.found "struct Issue")

end Issue

namespace Suggestion

def fields (suggestion : Suggestion) : List (String × Json) :=
  [("category", .string suggestion.category), ("title", .string suggestion.title),
    ("description", .string suggestion.description), ("example", .string suggestion.exampleCode)]

def toJson (suggestion : Suggestion) : Json := .object suggestion.fields

def ofFields (fields : List (String × Json)) : Except Mismatch Suggestion := do
  let category ← Json.optional fields "category" Json.asString
  let description ← Json.optional fields "description" Json.asString
  let exampleCode ← Json.optional fields "example" Json.asString
  let title ← Json.optional fields "title" Json.asString
  let category ← required "category" category
  let title ← required "title" title
  let description ← required "description" description
  let exampleCode ← required "example" exampleCode
  return { category, title, description, exampleCode }

def ofElements (items : List Json) : Except Mismatch Suggestion := do
  let expected := elementsOf "struct Suggestion" 4
  let category ← Json.element items 0 expected Json.asString
  let title ← Json.element items 1 expected Json.asString
  let description ← Json.element items 2 expected Json.asString
  let exampleCode ← Json.element items 3 expected Json.asString
  Json.noFurther items 4
  return { category, title, description, exampleCode }

def ofJson : Json → Except Mismatch Suggestion
  | .object fields => ofFields fields
  | .array items => ofElements items
  | other => .error (.wrongType other.found "struct Suggestion")

end Suggestion

namespace Metrics

def fields (metrics : Metrics) : List (String × Json) :=
  [("lines", metrics.lines.toJson), ("functions", metrics.functions.toJson),
    ("complexity", metrics.complexity.toJson),
    ("maintainability", metrics.maintainability.toJson)]

def toJson (metrics : Metrics) : Json := .object metrics.fields

def ofFields (fields : List (String × Json)) : Except Mismatch Metrics := do
  let complexity ← Json.optional fields "complexity" Json.asCount
  let functions ← Json.optional fields "functions" Json.asCount
  let lines ← Json.optional fields "lines" Json.asCount
  let maintainability ← Json.optional fields "maintainability" Json.asCount
  let lines ← required "lines" lines
  let functions ← required "functions" functions
  let complexity ← required "complexity" complexity
  let maintainability ← required "maintainability" maintainability
  return { lines, functions, complexity, maintainability }

def ofElements (items : List Json) : Except Mismatch Metrics := do
  let expected := elementsOf "struct Metrics" 4
  let lines ← Json.element items 0 expected Json.asCount
  let functions ← Json.element items 1 expected Json.asCount
  let complexity ← Json.element items 2 expected Json.asCount
  let maintainability ← Json.element items 3 expected Json.asCount
  Json.noFurther items 4
  return { lines, functions, complexity, maintainability }

def ofJson : Json → Except Mismatch Metrics
  | .object fields => ofFields fields
  | .array items => ofElements items
  | other => .error (.wrongType other.found "struct Metrics")

end Metrics

namespace Report

def toJson (report : Report) : Json :=
  .object
    [("issues", .array (report.issues.map Issue.toJson)),
      ("suggestions", .array (report.suggestions.map Suggestion.toJson)),
      ("metrics", report.metrics.toJson)]

def ofFields (fields : List (String × Json)) : Except Mismatch Report := do
  let issues ← Json.optional fields "issues" (Json.asList Issue.ofJson)
  let metrics ← Json.optional fields "metrics" Metrics.ofJson
  let suggestions ← Json.optional fields "suggestions" (Json.asList Suggestion.ofJson)
  let issues ← required "issues" issues
  let suggestions ← required "suggestions" suggestions
  let metrics ← required "metrics" metrics
  return { issues, suggestions, metrics }

def ofElements (items : List Json) : Except Mismatch Report := do
  let expected := elementsOf "struct AnalysisReport" 3
  let issues ← Json.element items 0 expected (Json.asList Issue.ofJson)
  let suggestions ← Json.element items 1 expected (Json.asList Suggestion.ofJson)
  let metrics ← Json.element items 2 expected Metrics.ofJson
  Json.noFurther items 3
  return { issues, suggestions, metrics }

/-- The report that a JSON value writes. -/
def ofJson : Json → Except Mismatch Report
  | .object fields => ofFields fields
  | .array items => ofElements items
  | other => .error (.wrongType other.found "struct AnalysisReport")

end Report

/-- Switches as a JSON object. The identifiers are taken in their order, each before its value. -/
def Toggles.ofJson : Json → Except Mismatch Toggles
  | .object fields => do
    let switches ← (Json.orderedFields fields).mapM fun (name, value) => do
      let id ← Json.asRuleId (.string name)
      return (id, ← Json.asBool value)
    return Toggles.ofList switches
  | other => .error (.wrongType other.found "struct RulesConfig")

end ScriptReview
