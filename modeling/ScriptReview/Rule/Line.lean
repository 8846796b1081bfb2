import ScriptReview.Report.Basic
import ScriptReview.Text.Blank

/-!
Rules that look at one line.
-/

namespace ScriptReview

/-- A rule that flags single lines. It sees the raw line and none of its neighbours. -/
structure LineRule where
  id : RuleId
  description : String
  kind : IssueKind
  severity : Severity
  message : String
  flags : List Char → Bool

namespace LineRule

/-- The issue that the rule raises on a line with the given number, if it flags the line. -/
def check (rule : LineRule) (number : Count) (line : List Char) : Option Issue :=
  if rule.flags line then
    some
      { ruleId := rule.id
        kind := rule.kind
        line := number
        message := rule.message
        code := String.ofList (Text.trim line)
        severity := rule.severity }
  else
    none

end LineRule
end ScriptReview
