import ScriptReview.Proofs.Registry.Toggles
import ScriptReview.Proofs.Report.Metrics
import ScriptReview.Proofs.Text.Padded
import ScriptReview.Registry.Scan

/-!
Scanning a text with padding around its lines.

A scan knows a text by its lines, and a line by what the rules, the triggers and the markers find in
it: texts whose lines cannot be told apart in this way have one report (`scanChars_congr`). The
built-in rules look for patterns without padding characters and at trimmed lines, so that padding
does not show in a report (`scan_padded`).
-/

namespace ScriptReview

/-! ## Padding around one line -/

theorem Metrics.declaresFunction_congr {line other : List Char}
    (h : ∀ marker ∈ functionMarkers,
      Text.occurs marker.toList other = Text.occurs marker.toList line) :
    declaresFunction other = declaresFunction line := by
  rw [Bool.eq_iff_iff, declaresFunction, declaresFunction, List.any_eq_true,
    List.any_eq_true]
  refine exists_congr fun marker => and_congr_right fun hmem => ?_
  rw [h marker hmem]

theorem Metrics.declaresFunction_around (padding : Text.Padding) (line : List Char) :
    declaresFunction (padding.around line) = declaresFunction line := by
  have hmarker : ∀ marker ∈ functionMarkers, Text.Unpadded marker.toList := by decide
  exact declaresFunction_congr fun marker hmem => (hmarker marker hmem).occurs_around padding line

namespace Builtin

theorem holds_around {piece : String} (h : Text.Unpadded piece.toList) (padding : Text.Padding)
    (line : List Char) : holds (padding.around line) piece = holds line piece :=
  h.occurs_around padding line

theorem flags_around {rule : LineRule} (h : rule ∈ lineRules) (padding : Text.Padding)
    (line : List Char) : rule.flags (padding.around line) = rule.flags line := by
  have hpiece : ∀ piece ∈ ["var ", " == ", " === ", "//", "return "],
      Text.Unpadded piece.toList := by decide
  simp only [lineRules, List.mem_cons, List.not_mem_nil, or_false] at h
  rcases h with rfl | rfl | rfl
  · exact holds_around (hpiece "var " (by simp)) padding line
  · simp only [looseEquality, holds_around (hpiece " == " (by simp)),
      holds_around (hpiece " === " (by simp))]
  · simp only [missingSemicolon, padding.trim_around, holds_around (hpiece "//" (by simp)),
      holds_around (hpiece "return " (by simp))]

theorem check_around {rule : LineRule} (h : rule ∈ lineRules) (padding : Text.Padding)
    (number : Count) (line : List Char) :
    rule.check number (padding.around line) = rule.check number line := by
  rw [LineRule.check, LineRule.check, flags_around h, padding.trim_around]

end Builtin

namespace Registry

/-- A scan with the registry cannot tell the lines apart. -/
structure Alike (registry : Registry) (line other : List Char) : Prop where
  checkLine : ∀ number, registry.checkLine number other = registry.checkLine number line
  applies : ∀ template ∈ registry.templates, template.applies other = template.applies line
  declaresFunction : Metrics.declaresFunction other = Metrics.declaresFunction line
  occurrences : ∀ marker ∈ Metrics.complexityMarkers,
    Text.occurrences marker.toList other = Text.occurrences marker.toList line

/-! ## Texts whose lines are alike -/

theorem map_eq_of_forall₂ {α β : Type} {f : α → β} {l l' : List α}
    (h : List.Forall₂ (fun a b => f b = f a) l l') : l'.map f = l.map f := by
  induction h with
  | nil => rfl
  | cons hfirst _ ih => rw [List.map_cons, List.map_cons, hfirst, ih]

section Alike

variable {registry : Registry} {text other : List Char}
  (h : List.Forall₂ registry.Alike (Text.lines text) (Text.lines other))

theorem checkLines_congr {lines others : List (List Char)}
    (h : List.Forall₂ registry.Alike lines others) (before : Nat) :
    registry.checkLines before others = registry.checkLines before lines := by
  induction h generalizing before with
  | nil => rfl
  | cons hline _ ih => rw [checkLines, checkLines, hline.checkLine, ih]

include h

theorem applies_congr {template : Template} (htemplate : template ∈ registry.templates)
    (htrigger : '\n' ∉ template.trigger.toList) :
    template.applies other = template.applies text := by
  have hlines := map_eq_of_forall₂ (h.imp fun _ _ alike => alike.applies template htemplate)
  have hany : ∀ text, template.applies text =
      ((Text.lines text).map template.applies).any id := fun text => by
    rw [List.any_map]
    exact Text.occurs_eq_any_lines htrigger text
  rw [hany, hany, hlines]

theorem functionCount_congr :
    Metrics.functionCount (Text.lines other) = Metrics.functionCount (Text.lines text) := by
  have hlines := map_eq_of_forall₂ (h.imp fun _ _ alike => alike.declaresFunction)
  have hcount : ∀ lines, Metrics.functionCount lines =
      Count.clamp ((lines.map Metrics.declaresFunction).countP id) := fun lines => by
    rw [List.countP_map]
    rfl
  rw [hcount, hcount, hlines]

theorem complexityScore_congr :
    Metrics.complexityScore other = Metrics.complexityScore text := by
  have hmarkers : ∀ marker ∈ Metrics.complexityMarkers,
      Metrics.countOccurrences other marker.toList =
        Metrics.countOccurrences text marker.toList := by
    intro marker hmarker
    have hlines := map_eq_of_forall₂ (h.imp fun _ _ alike => alike.occurrences marker hmarker)
    have hnewline := Metrics.newline_notMem_complexityMarker _ (List.mem_map_of_mem hmarker)
    rw [Metrics.countOccurrences, Metrics.countOccurrences,
      Text.occurrences_eq_sum_lines hnewline, Text.occurrences_eq_sum_lines hnewline, hlines]
  rw [Metrics.complexityScore, Metrics.complexityScore, List.map_congr_left hmarkers]

theorem scanChars_congr
    (htriggers : ∀ template ∈ registry.templates, '\n' ∉ template.trigger.toList) :
    registry.scanChars other = registry.scanChars text := by
  have hsuggestions : registry.suggestions other = registry.suggestions text := by
    rw [suggestions, suggestions, List.filter_congr fun template htemplate =>
      applies_congr h htemplate (htriggers template htemplate)]
  have hlines : Metrics.lineCount other = Metrics.lineCount text := by
    rw [Metrics.lineCount, Metrics.lineCount, h.length_eq]
  rw [scanChars, scanChars, checkLines_congr h, hsuggestions, Metrics.ofText, Metrics.ofText,
    hlines, functionCount_congr h, complexityScore_congr h]

end Alike

/-! ## Texts with padded lines -/

/-- A registry with no other rules and templates than the built-in ones does not see padding. -/
theorem alike_of_paddedLine {registry : Registry} (hrules : registry.lineRules ⊆ Builtin.lineRules)
    (htemplates : registry.templates ⊆ Builtin.templates) {line padded : List Char}
    (h : Text.PaddedLine line padded) : registry.Alike line padded := by
  have htrigger : ∀ template ∈ Builtin.templates, Text.Unpadded template.trigger.toList := by decide
  have hmarker : ∀ marker ∈ Metrics.complexityMarkers, Text.Unpadded marker.toList := by decide
  obtain ⟨padding, rfl⟩ := h
  exact
    { checkLine := fun number => List.filterMap_congr fun rule hrule =>
        Builtin.check_around (hrules hrule) padding number line
      applies := fun template htemplate =>
        (htrigger template (htemplates htemplate)).occurs_around padding line
      declaresFunction := Metrics.declaresFunction_around padding line
      occurrences := fun marker hmem => (hmarker marker hmem).occurrences_around padding line }

theorem scanChars_of_padded {registry : Registry} (hrules : registry.lineRules ⊆ Builtin.lineRules)
    (htemplates : registry.templates ⊆ Builtin.templates) {text padded : List Char}
    (h : List.Forall₂ Text.PaddedLine (Text.lines text) (Text.lines padded)) :
    registry.scanChars padded = registry.scanChars text := by
  have hnewline : ∀ template ∈ Builtin.templates, '\n' ∉ template.trigger.toList := by decide
  exact scanChars_congr (h.imp fun _ _ => alike_of_paddedLine hrules htemplates)
    fun template htemplate => hnewline template (htemplates htemplate)

/-- A configured registry finds the same in a text whatever padding there is around its lines: also
if all line feeds get a carriage return, if lines are indented by tabs, and if a byte order mark
stands in front. -/
theorem scan_padded {toggles : Toggles} {registry : Registry}
    (h : ofToggles toggles = .ok registry) (text : String) :
    (∀ padding : Nat → Text.Padding,
      registry.scan (String.ofList (Text.padLines padding text.toList)) = registry.scan text) ∧
    registry.scan (String.ofList (Text.returnLines text.toList)) = registry.scan text ∧
    (∀ tabs : Nat → Nat,
      registry.scan
          (String.ofList (Text.padLines (fun before => .tabs (tabs before)) text.toList)) =
        registry.scan text) ∧
    registry.scan ("\uFEFF" ++ text) = registry.scan text := by
  obtain rfl := eq_switched_of_ofToggles h
  have hscan : ∀ padded : String,
      List.Forall₂ Text.PaddedLine (Text.lines text.toList) (Text.lines padded.toList) →
        (builtin.switched toggles.entries).scan padded =
          (builtin.switched toggles.entries).scan text := fun padded hpadded =>
    scanChars_of_padded (lineRules_switched_subset builtin toggles.entries)
      (templates_switched_subset builtin toggles.entries) hpadded
  have hpadding : ∀ padding : Nat → Text.Padding,
      (builtin.switched toggles.entries).scan
          (String.ofList (Text.padLines padding text.toList)) =
        (builtin.switched toggles.entries).scan text := by
    intro padding
    refine hscan _ ?_
    rw [String.toList_ofList]
    exact Text.forall₂_lines_padLines padding text.toList
  refine ⟨hpadding, hscan _ ?_, fun tabs => hpadding _, hscan _ ?_⟩
  · rw [String.toList_ofList]
    exact Text.forall₂_lines_returnLines text.toList
  · rw [String.toList_append]
    exact Text.forall₂_lines_byteOrderMark text.toList

theorem scan_padded_returnLines :
    ofToggles (Toggles.empty.set Builtin.looseEquality.id false) =
        .ok (builtin.erase Builtin.looseEquality.id) ∧
      (((builtin.erase Builtin.looseEquality.id).scan
          (String.ofList (Text.returnLines "var a = b == 1;\nreturn a\n".toList))).issues.map
            fun issue => (issue.ruleId.name, issue.line.toNat, issue.code)) =
        [("var-usage", 1, "var a = b == 1;"), ("missing-semicolon", 2, "return a")] := by
  have hregistry : ofToggles (Toggles.empty.set Builtin.looseEquality.id false) =
      .ok (builtin.erase Builtin.looseEquality.id) := by rfl
  refine ⟨hregistry, ?_⟩
  rw [(scan_padded hregistry "var a = b == 1;\nreturn a\n").2.1]
  decide

end Registry
end ScriptReview
