import ScriptReview.Proofs.Report.Occurrences
import ScriptReview.Registry.Scan

/-!
The number of functions.

It is a number of lines: a line with several markers counts once. So there are no more functions
than lines, and no more than appearances of the markers in the whole text, and there is one just if
a marker appears at all (`Registry.scan_functions`). The count can be kept while the lines go by,
since a count that has stuck stays where it is.
-/

namespace ScriptReview

/-- No more lines hold the pattern than there are appearances of it. -/
theorem Text.countP_occurs_lines_le {pattern : List Char} (h : pattern ≠ [])
    (hnewline : '\n' ∉ pattern) (text : List Char) :
    (lines text).countP (occurs pattern) ≤ occurrences pattern text := by
  rw [occurrences_eq_sum_lines hnewline]
  induction lines text with
  | nil => exact Nat.zero_le _
  | cons line later ih =>
    rw [List.countP_cons, List.map_cons, List.sum_cons]
    by_cases hoccurs : occurs pattern line = true
    · have hpositive : 0 < occurrences pattern line := (occurrences_pos_iff h).mpr hoccurs
      rw [if_pos hoccurs]
      omega
    · rw [if_neg hoccurs]
      omega

/-- Lines of two kinds are no more than those of the one kind and those of the other. -/
theorem Text.countP_or_le (first second : List Char → Bool) (lines : List (List Char)) :
    lines.countP (fun line => first line || second line) ≤
      lines.countP first + lines.countP second := by
  induction lines with
  | nil => exact Nat.zero_le _
  | cons line later ih =>
    rw [List.countP_cons, List.countP_cons, List.countP_cons]
    by_cases hfirst : first line = true
    · simp only [hfirst, Bool.true_or, if_true]
      omega
    · simp only [hfirst, Bool.false_or]
      omega

namespace Metrics

/-! ## One line after the other -/

/-- The count of functions after one more line. -/
def countLine (count : Count) (line : List Char) : Count :=
  if declaresFunction line then count + Count.clamp 1 else count

theorem countLine_clamp (n : Nat) (line : List Char) :
    countLine (Count.clamp n) line =
      Count.clamp (n + if declaresFunction line then 1 else 0) := by
  by_cases hdeclares : declaresFunction line = true
  · rw [countLine, if_pos hdeclares, if_pos hdeclares, Count.clamp_add_clamp]
  · rw [countLine, if_neg hdeclares, if_neg hdeclares, Nat.add_zero]

theorem foldl_countLine (lines : List (List Char)) (n : Nat) :
    lines.foldl countLine (Count.clamp n) = Count.clamp (n + lines.countP declaresFunction) := by
  induction lines generalizing n with
  | nil => rfl
  | cons line later ih =>
    rw [List.foldl_cons, countLine_clamp, ih, List.countP_cons, Nat.add_assoc,
      Nat.add_comm (List.countP _ later)]

theorem functionCount_eq_foldl (lines : List (List Char)) :
    functionCount lines = lines.foldl countLine Count.zero := by
  rw [Count.zero, foldl_countLine, Nat.zero_add, functionCount]

/-! ## Bounds -/

theorem functionCount_le_lineCount (text : List Char) :
    (functionCount (Text.lines text)).toNat ≤ (lineCount text).toNat := by
  have hlines : (Text.lines text).countP declaresFunction ≤ (Text.lines text).length :=
    List.countP_le_length
  rw [functionCount, lineCount, Count.toNat_clamp, Count.toNat_clamp]
  omega

theorem countP_declaresFunction_le (text : List Char) :
    (Text.lines text).countP declaresFunction ≤
      Text.occurrences "function ".toList text + Text.occurrences "=> ".toList text := by
  have hmarkers : declaresFunction = fun line =>
      Text.occurs "function ".toList line || Text.occurs "=> ".toList line := by
    funext line
    rw [declaresFunction, functionMarkers, List.any_cons, List.any_cons, List.any_nil,
      Bool.or_false]
  have hkeyword : (Text.lines text).countP (Text.occurs "function ".toList) ≤
      Text.occurrences "function ".toList text :=
    Text.countP_occurs_lines_le (by decide) (by decide) text
  have harrow : (Text.lines text).countP (Text.occurs "=> ".toList) ≤
      Text.occurrences "=> ".toList text :=
    Text.countP_occurs_lines_le (by decide) (by decide) text
  rw [hmarkers]
  exact (Text.countP_or_le _ _ _).trans (Nat.add_le_add hkeyword harrow)

theorem functionCount_le_countOccurrences (text : List Char) :
    (functionCount (Text.lines text)).toNat ≤
      (countOccurrences text "function ".toList + countOccurrences text "=> ".toList).toNat := by
  have hbound := countP_declaresFunction_le text
  rw [countOccurrences, countOccurrences, Count.clamp_add_clamp, functionCount, Count.toNat_clamp,
    Count.toNat_clamp]
  omega

end Metrics

/-- The number of functions in a report is what a count over the lines comes to. It is at most the
number of lines, it is zero just if the text as a whole holds no marker, and it is at most the
number of appearances of the markers, whatever the registry. -/
theorem Registry.scan_functions (registry : Registry) (text : String) :
    (registry.scan text).metrics.functions =
        (Text.lines text.toList).foldl Metrics.countLine Count.zero ∧
      (registry.scan text).metrics.functions.toNat ≤
        (registry.scan text).metrics.lines.toNat ∧
      ((registry.scan text).metrics.functions.toNat = 0 ↔
        Metrics.declaresFunction text.toList = false) ∧
      (registry.scan text).metrics.functions.toNat ≤
        (Metrics.countOccurrences text.toList "function ".toList +
          Metrics.countOccurrences text.toList "=> ".toList).toNat := by
  refine ⟨Metrics.functionCount_eq_foldl _, Metrics.functionCount_le_lineCount _, ?_,
    Metrics.functionCount_le_countOccurrences _⟩
  have hpositive : 0 < (registry.scan text).metrics.functions.toNat ↔
      Metrics.declaresFunction text.toList = true := Metrics.functionCount_pos_iff
  rw [← Bool.not_eq_true, ← hpositive, Nat.not_lt, Nat.le_zero]

/-- Two markers on one line are one function. -/
example : Metrics.functionCount (Text.lines "function f(x) => x;\ng = x => y => x".toList) =
    Count.clamp 2 := by decide

end ScriptReview
