import ScriptReview.Proofs.Report.Metrics
import ScriptReview.Proofs.Text.Words

/-!
Complexity as a number of positions.

The complexity is a sum of counts, one for each marker. It is also the number of positions at which
there is a space right behind a keyword, so that one pass over the text would do
(`complexityScore_eq_spacesBehind`).
-/

namespace ScriptReview
namespace Metrics

/-- The words that branch or loop. -/
def keywords : List (List Char) := ["if", "for", "while", "switch"].map String.toList

/-- The markers are the keywords with a space behind each of them. -/
theorem complexityMarkers_eq :
    complexityMarkers.map String.toList = keywords.map (· ++ [' ']) := by
  decide

theorem ne_nil_and_space_notMem_of_mem_keywords :
    ∀ word ∈ keywords, word ≠ [] ∧ ' ' ∉ word := by
  decide

theorem apart_keywords : Text.Apart keywords := ⟨by decide, by decide⟩

theorem markerOccurrences_eq_spacesBehind (text : List Char) :
    markerOccurrences text = Text.spacesBehind keywords text := by
  rw [markerOccurrences, complexityMarkers_eq, List.map_map, ← List.sum_eq_foldl,
    ← Text.sum_occurrences_eq_spacesBehind ne_nil_and_space_notMem_of_mem_keywords apart_keywords]
  rfl

/-- The complexity of a text is the number of its spaces that stand right behind a keyword, which a
single pass counts as well. The count for each marker misses none of the spaces behind its word, and
no space is counted for two words. -/
theorem complexityScore_eq_spacesBehind (text : List Char) :
    complexityScore text = Count.clamp (Text.spacesBehind keywords text) ∧
      Text.passSpaces keywords [] text = Text.spacesBehind keywords text ∧
      (keywords.map fun word => Text.occurrences (word ++ [' ']) text) =
        (keywords.map fun word =>
          (List.range text.length).countP (Text.isSpaceBehind [word] text)) ∧
      ∀ position, keywords.countP (fun word => Text.isSpaceBehind [word] text position) ≤ 1 := by
  refine ⟨?_, ?_, ?_, Text.countP_isSpaceBehind_le_one apart_keywords text⟩
  · rw [complexityScore_eq_clamp, markerOccurrences_eq_spacesBehind]
  · exact Text.passSpaces_eq_spacesBehind
      (fun word hword => (ne_nil_and_space_notMem_of_mem_keywords word hword).2) text
  · refine List.map_congr_left fun word hword => ?_
    obtain ⟨hne, hspace⟩ := ne_nil_and_space_notMem_of_mem_keywords word hword
    exact Text.occurrences_eq_spacesBehind hne hspace text

/-- A keyword counts inside a longer word too, and only together with the space behind it. -/
example : complexityScore "elif (a) switch if(b) while  for ".toList = Count.clamp 4 := by decide

end Metrics
end ScriptReview
