import ScriptReview.Report.Basic
import ScriptReview.Text.Lines
import ScriptReview.Text.Search

/-!
Figures about a text.

All of them count appearances of fixed words in the raw text. A word inside a string or a comment
counts like any other.
-/

namespace ScriptReview
namespace Metrics

/-- A line that holds one of these starts a function. -/
def functionMarkers : List String := ["function ", "=> "]

/-- Every appearance of one of these adds one to the complexity. -/
def complexityMarkers : List String := ["if ", "for ", "while ", "switch "]

/-- The score that every text gets: maintainability is not measured. -/
def fixedMaintainability : Count := Count.clamp 85

def lineCount (text : List Char) : Count :=
  Count.clamp (Text.lines text).length

def declaresFunction (line : List Char) : Bool :=
  functionMarkers.any fun marker => Text.occurs marker.toList line

def countOccurrences (text pattern : List Char) : Count :=
  Count.clamp (Text.occurrences pattern text)

/-- The number of lines that start a function. -/
def functionCount (lines : List (List Char)) : Count :=
  Count.clamp (lines.countP declaresFunction)

def complexityScore (text : List Char) : Count :=
  (complexityMarkers.map fun marker => countOccurrences text marker.toList).foldl (· + ·) Count.zero

def ofText (text : List Char) : Metrics where
  lines := lineCount text
  functions := functionCount (Text.lines text)
  complexity := complexityScore text
  maintainability := fixedMaintainability

end Metrics
end ScriptReview
