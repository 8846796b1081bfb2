import ScriptReview.Render.Styled
import ScriptReview.Report.Basic
import ScriptReview.Text.Lines

/-!
Reports for people.

A report has up to three sections with an empty line between them. Headings are bold, the tag of an
issue has the color of its severity, and the category of a suggestion is cyan.
-/

namespace ScriptReview

def Severity.color : Severity → Color
  | .high => .red
  | .medium => .yellow
  | .low => .blue

namespace Render

/-- A heading on a line of its own. -/
def heading (text : String) : Document :=
  [.bold text, .plain "\n"]

/-- Kind and severity of an issue. -/
def issueTag (issue : Issue) : String :=
  issue.kind.name ++ " [" ++ issue.severity.name ++ "]"

def issue (issue : Issue) : Document :=
  [.plain ("  line " ++ toString issue.line.toNat ++ ": "),
    .boldColored issue.severity.color (issueTag issue),
    .plain (" " ++ issue.message ++ " (" ++ issue.ruleId.name ++ ")\n"),
    .plain ("    " ++ issue.code ++ "\n")]

def issues (found : List Issue) : Document :=
  heading ("Issues (" ++ toString found.length ++ "):") ++
    if found.isEmpty then [.colored .green "  ✓ No issues found", .plain "\n"]
    else found.flatMap issue

/-- A line of an example. An empty line is not indented. -/
def exampleLine (line : List Char) : Span :=
  .plain (if line.isEmpty then "\n" else "       " ++ String.ofList line ++ "\n")

/-- A suggestion with its number in the report. -/
def suggestion (number : Nat) (suggestion : Suggestion) : Document :=
  [.plain ("  " ++ toString number ++ ". "),
    .colored .cyan ("[" ++ suggestion.category ++ "]"),
    .plain (" " ++ suggestion.title ++ "\n"),
    .plain ("     " ++ suggestion.description ++ "\n\n")] ++
    (Text.displayLines suggestion.exampleCode.toList).map exampleLine

/-- Suggestions, of which the first has the given number. -/
def numbered : Nat → List Suggestion → Document
  | _, [] => []
  | number, first :: more => suggestion number first ++ numbered (number + 1) more

def suggestions (found : List Suggestion) : Document :=
  heading ("Suggestions (" ++ toString found.length ++ "):") ++
    if found.isEmpty then [.plain "  No suggestions\n"] else numbered 1 found

def metrics (metrics : Metrics) : Document :=
  heading "Metrics:" ++
    [.plain ("  Lines of code:   " ++ toString metrics.lines.toNat ++ "\n"),
      .plain ("  Functions:       " ++ toString metrics.functions.toNat ++ "\n"),
      .plain ("  Complexity:      " ++ toString metrics.complexity.toNat ++ "\n"),
      .plain ("  Maintainability: " ++ toString metrics.maintainability.toNat ++ "\n")]

/-- The sections of a report that the view shows. -/
def sections (view : View) (report : Report) : List Document :=
  (if view.showsIssues then [issues report.issues] else []) ++
    (if view.showsSuggestions then [suggestions report.suggestions] else []) ++
    if view.showsMetrics then [metrics report.metrics] else []

end Render

/-- A report for people, limited to what the view shows. -/
def Report.document (view : View) (report : Report) : Document :=
  [Span.plain "\n"].intercalate (Render.sections view report)

end ScriptReview
