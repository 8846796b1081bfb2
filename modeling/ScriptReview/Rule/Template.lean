import ScriptReview.Report.Basic
import ScriptReview.Text.Search

/-!
Templates of suggestions.
-/

namespace ScriptReview

/-- A suggestion together with the piece of text that calls for it. The name of a template need not
have the form of a rule identifier; one that has not cannot be switched off. -/
structure Template where
  name : String
  trigger : String
  suggestion : Suggestion
  deriving DecidableEq

namespace Template

/-- A template applies once to a text that holds its trigger anywhere. -/
def applies (template : Template) (text : List Char) : Bool :=
  Text.occurs template.trigger.toList text

end Template
end ScriptReview
