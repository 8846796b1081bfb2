import ScriptReview.Registry.Basic
import ScriptReview.Report.Metrics

/-!
Scanning a text.

A scan looks at a text twice: line by line with every rule, and as a whole with every template. It
never fails. The figures of the report do not depend on the registry.
-/

namespace ScriptReview
namespace Registry

/-- The issues of one line, in the order of the rules. -/
def checkLine (registry : Registry) (number : Count) (line : List Char) : List Issue :=
  registry.lineRules.filterMap fun rule => rule.check number line

/-- The issues of lines that begin after `before` other lines. -/
def checkLines (registry : Registry) (before : Nat) : List (List Char) → List Issue
  | [] => []
  | line :: later =>
    registry.checkLine (Count.clamp (before + 1)) line ++ registry.checkLines (before + 1) later

/-- The suggestions that the text calls for, in the order of the templates. -/
def suggestions (registry : Registry) (text : List Char) : List Suggestion :=
  (registry.templates.filter (·.applies text)).map (·.suggestion)

def scanChars (registry : Registry) (text : List Char) : Report where
  issues := registry.checkLines 0 (Text.lines text)
  suggestions := registry.suggestions text
  metrics := Metrics.ofText text

/-- Everything that the registry finds in the text. -/
def scan (registry : Registry) (text : String) : Report :=
  registry.scanChars text.toList

end Registry
end ScriptReview
