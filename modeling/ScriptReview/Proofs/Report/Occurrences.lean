import ScriptReview.Proofs.Report.Metrics
import ScriptReview.Proofs.Text.Occurrences

/-!
Counts of a pattern.

The count of a pattern is as large as a count without overlap can be, also for patterns that overlap
themselves (`countOccurrences_greatest`). A pattern without a line feed can be counted line by line
(`countOccurrences_lines`). The complexity of a text is a sum of such counts, and its functions are
lines with a marker; neither figure is zero just if a marker appears in the text
(`complexityScore_pos_iff`, `functionCount_pos_iff`).
-/

namespace ScriptReview

theorem Count.clamp_pos_iff {n : Nat} : 0 < (clamp n).toNat ↔ 0 < n := by
  have hmaximum : 0 < maximum := by decide
  rw [toNat_clamp]
  omega

theorem Count.eq_zero_of_not_pos {count : Count} (h : ¬0 < count.toNat) : count = zero :=
  ext (Nat.eq_zero_of_not_pos h)

namespace Metrics

theorem countOccurrences_pos_iff {pattern : List Char} (h : pattern ≠ []) {text : List Char} :
    0 < (countOccurrences text pattern).toNat ↔ Text.occurs pattern text = true := by
  rw [countOccurrences, Count.clamp_pos_iff, Text.occurrences_pos_iff h]

/-- The count of a pattern is the largest number of its appearances that can be chosen without
overlap, or the largest count if there are more. It is not zero just if the pattern is found in the
text, which is to say that the pattern is a part of the text. -/
theorem countOccurrences_greatest {pattern : List Char} (h : pattern ≠ []) (text : List Char) :
    (∃ most, IsGreatest (Text.selectionSizes pattern text) most ∧
      (countOccurrences text pattern).toNat = min (2 ^ 32 - 1) most) ∧
    (0 < (countOccurrences text pattern).toNat ↔ Text.occurs pattern text = true) ∧
    (Text.occurs pattern text = true ↔ pattern <:+: text) := by
  refine ⟨⟨_, Text.isGreatest_occurrences h text, ?_⟩, countOccurrences_pos_iff h,
    Text.occurs_iff_isInfix⟩
  rw [countOccurrences, Count.toNat_clamp, Nat.min_comm]
  rfl

/-- Of three appearances, the first two of which overlap, two can be chosen. -/
theorem countOccurrences_greatest_overlapping :
    "aba".toList ≠ [] ∧ (countOccurrences "ababaaba".toList "aba".toList).toNat = 2 ∧
      IsGreatest (Text.selectionSizes "aba".toList "ababaaba".toList) 2 ∧
      "aba".toList <:+: "ababaaba".toList := by
  have hne : "aba".toList ≠ [] := by decide
  obtain ⟨⟨most, hgreatest, hcount⟩, hfound, hpart⟩ :=
    countOccurrences_greatest hne "ababaaba".toList
  have htwo : (countOccurrences "ababaaba".toList "aba".toList).toNat = 2 := by decide
  have hmost : most = 2 := by omega
  rw [hmost] at hgreatest
  exact ⟨hne, htwo, hgreatest, hpart.mp (hfound.mp (by omega))⟩

/-! ## Line by line -/

/-- The counts on several lines, added up. It does not matter that each count and each sum stops at
the largest count. -/
theorem foldl_countOccurrences (lines : List (List Char)) (pattern : List Char) :
    (lines.map fun line => countOccurrences line pattern).foldl (· + ·) Count.zero =
      Count.clamp (lines.map (Text.occurrences pattern)).sum := by
  have hcounts : (lines.map fun line => countOccurrences line pattern) =
      (lines.map (Text.occurrences pattern)).map Count.clamp := by
    rw [List.map_map]
    rfl
  rw [hcounts, Count.zero, Count.foldl_add_map_clamp, List.sum_eq_foldl]

/-- The count of a pattern without a line feed is the sum of its counts on the lines of the text,
which stops at the largest count. The pattern is found in the text just if it is found on a line. It
may be the empty pattern. -/
theorem countOccurrences_lines {pattern : List Char} (h : '\n' ∉ pattern) (text : List Char) :
    countOccurrences text pattern =
        ((Text.lines text).map fun line => countOccurrences line pattern).foldl (· + ·)
          Count.zero ∧
      (Text.occurs pattern text = true ↔
        ∃ line ∈ Text.lines text, Text.occurs pattern line = true) := by
  constructor
  · rw [foldl_countOccurrences, countOccurrences, Text.occurrences_eq_sum_lines h]
  · rw [Text.occurs_eq_any_lines h, List.any_eq_true]

/-- Of two overlapping appearances on the first line one is counted, and what begins at its end does
not go on behind the line feed. The empty pattern is found once more often than there are
characters, on each line and in the whole text. -/
theorem countOccurrences_lines_overlapping :
    '\n' ∉ "aba".toList ∧
      (countOccurrences "ababab\naba".toList "aba".toList).toNat = 2 ∧
      (countOccurrences "ababab\naba".toList []).toNat = 11 ∧
      ∃ line ∈ Text.lines "ababab\naba".toList, Text.occurs "aba".toList line = true := by
  have hnewline : '\n' ∉ "aba".toList := by decide
  obtain ⟨hcount, hfound⟩ := countOccurrences_lines hnewline "ababab\naba".toList
  obtain ⟨hempty, -⟩ := countOccurrences_lines List.not_mem_nil "ababab\naba".toList
  refine ⟨hnewline, ?_, ?_, hfound.mp (by decide)⟩
  · rw [hcount]
    decide
  · rw [hempty]
    decide

/-! ## Figures that are not zero -/

theorem complexityScore_pos_iff {text : List Char} :
    0 < (complexityScore text).toNat ↔
      ∃ marker ∈ complexityMarkers, Text.occurs marker.toList text = true := by
  have hne : ∀ marker ∈ complexityMarkers, marker.toList ≠ [] := by decide
  rw [complexityScore_eq_clamp, Count.clamp_pos_iff, markerOccurrences, List.map_map,
    ← List.sum_eq_foldl, List.sum_pos_iff_exists_pos_nat]
  constructor
  · intro h
    obtain ⟨number, hnumber, hpositive⟩ := h
    obtain ⟨marker, hmarker, rfl⟩ := List.mem_map.mp hnumber
    exact ⟨marker, hmarker, (Text.occurrences_pos_iff (hne marker hmarker)).mp hpositive⟩
  · intro h
    obtain ⟨marker, hmarker, hoccurs⟩ := h
    have hpositive := (Text.occurrences_pos_iff (hne marker hmarker)).mpr hoccurs
    exact ⟨_, List.mem_map_of_mem hmarker, hpositive⟩

theorem declaresFunction_iff {line : List Char} :
    declaresFunction line = true ↔
      ∃ marker ∈ functionMarkers, Text.occurs marker.toList line = true := by
  rw [declaresFunction, List.any_eq_true]

theorem functionCount_pos_iff {text : List Char} :
    0 < (functionCount (Text.lines text)).toNat ↔ declaresFunction text = true := by
  have hnewline : ∀ marker ∈ functionMarkers, '\n' ∉ marker.toList := by decide
  rw [functionCount, Count.clamp_pos_iff, List.countP_pos_iff, declaresFunction_iff]
  constructor
  · intro h
    obtain ⟨line, hline, hdeclares⟩ := h
    obtain ⟨marker, hmarker, hoccurs⟩ := declaresFunction_iff.mp hdeclares
    refine ⟨marker, hmarker, ?_⟩
    rw [Text.occurs_eq_any_lines (hnewline marker hmarker), List.any_eq_true]
    exact ⟨line, hline, hoccurs⟩
  · intro h
    obtain ⟨marker, hmarker, hoccurs⟩ := h
    rw [Text.occurs_eq_any_lines (hnewline marker hmarker), List.any_eq_true] at hoccurs
    obtain ⟨line, hline, hfound⟩ := hoccurs
    exact ⟨line, hline, declaresFunction_iff.mpr ⟨marker, hmarker, hfound⟩⟩

end Metrics
end ScriptReview
