import ScriptReview.Report.Metrics
import ScriptReview.Proofs.Text.Joined

/-!
Figures of a text.

Every figure is a number that is clamped once: the steps at which a sum is clamped in between do not
show. The figures of two texts with a line feed between them are therefore the sums of theirs.
-/

namespace ScriptReview
namespace Metrics

/-- The appearances of all complexity markers, before they are clamped. -/
def markerOccurrences (text : List Char) : Nat :=
  ((complexityMarkers.map String.toList).map (Text.occurrences · text)).foldl (· + ·) 0

theorem complexityScore_eq_clamp (text : List Char) :
    complexityScore text = Count.clamp (markerOccurrences text) := by
  rw [markerOccurrences, ← Count.foldl_add_map_clamp, List.map_map, List.map_map]
  rfl

theorem newline_notMem_complexityMarker :
    ∀ marker ∈ complexityMarkers.map String.toList, '\n' ∉ marker := by
  decide

theorem markerOccurrences_joined (a b : List Char) :
    markerOccurrences (a ++ '\n' :: b) = markerOccurrences a + markerOccurrences b :=
  Text.foldl_occurrences_joined newline_notMem_complexityMarker a b 0 0

theorem complexityScore_joined (a b : List Char) :
    complexityScore (a ++ '\n' :: b) = complexityScore a + complexityScore b := by
  rw [complexityScore_eq_clamp, complexityScore_eq_clamp, complexityScore_eq_clamp,
    Count.clamp_add_clamp, markerOccurrences_joined]

theorem lineCount_joined (a b : List Char) :
    lineCount (a ++ '\n' :: b) = lineCount a + lineCount b := by
  rw [lineCount, lineCount, lineCount, Text.lines_joined, List.length_append,
    Count.clamp_add_clamp]

theorem functionCount_append (lines later : List (List Char)) :
    functionCount (lines ++ later) = functionCount lines + functionCount later := by
  rw [functionCount, functionCount, functionCount, List.countP_append, Count.clamp_add_clamp]

theorem ofText_joined (a b : List Char) :
    ofText (a ++ '\n' :: b) =
      { lines := (ofText a).lines + (ofText b).lines
        functions := (ofText a).functions + (ofText b).functions
        complexity := (ofText a).complexity + (ofText b).complexity
        maintainability := (ofText a).maintainability } := by
  simp only [ofText, lineCount_joined, Text.lines_joined, functionCount_append,
    complexityScore_joined]

end Metrics
end ScriptReview
