import ScriptReview.Count
import ScriptReview.Rule.Id

/-!
Reports: what a scan of one text finds.
-/

namespace ScriptReview

/-- What an issue amounts to for the reader. -/
inductive IssueKind where
  | error
  | warning
  | info
  deriving DecidableEq

namespace IssueKind

def all : List IssueKind := [error, warning, info]

def name : IssueKind → String
  | error => "error"
  | warning => "warning"
  | info => "info"

end IssueKind

/-- How much an issue matters. -/
inductive Severity where
  | high
  | medium
  | low
  deriving DecidableEq

namespace Severity

def all : List Severity := [high, medium, low]

def name : Severity → String
  | high => "high"
  | medium => "medium"
  | low => "low"

end Severity

/-- One flagged line. -/
structure Issue where
  /-- The rule that flagged the line. -/
  ruleId : RuleId
  kind : IssueKind
  /-- The number of the line; the first line has number 1. -/
  line : Count
  message : String
  /-- The line without the blank characters at its ends. -/
  code : String
  severity : Severity
  deriving DecidableEq

/-- Advice on the text as a whole, with an example of better code. -/
structure Suggestion where
  category : String
  title : String
  description : String
  exampleCode : String
  deriving DecidableEq

/-- Figures about the text. -/
structure Metrics where
  lines : Count
  /-- Lines that look like the start of a function. -/
  functions : Count
  /-- Branching and looping keywords. -/
  complexity : Count
  maintainability : Count
  deriving DecidableEq

/-- Everything that one scan finds. -/
structure Report where
  issues : List Issue
  suggestions : List Suggestion
  metrics : Metrics
  deriving DecidableEq

namespace Report

/-- A report is clean when no line is flagged; suggestions do not matter. -/
def isClean (report : Report) : Bool :=
  report.issues.isEmpty

/-- How many issues have the given severity. -/
def countSeverity (report : Report) (severity : Severity) : Nat :=
  (report.issues.filter (·.severity == severity)).length

/-- The example of the suggestion at a position, counted from zero. -/
def exampleCode? (report : Report) (index : Nat) : Option String :=
  report.suggestions[index]?.map (·.exampleCode)

end Report

/-- The parts of a report to show. -/
inductive View where
  | all
  | issues
  | suggestions
  | metrics
  deriving DecidableEq

namespace View

def every : List View := [all, issues, suggestions, metrics]

def name : View → String
  | all => "all"
  | issues => "issues"
  | suggestions => "suggestions"
  | metrics => "metrics"

def showsIssues (view : View) : Bool :=
  view == all || view == issues

def showsSuggestions (view : View) : Bool :=
  view == all || view == suggestions

def showsMetrics (view : View) : Bool :=
  view == all || view == metrics

end View
end ScriptReview
