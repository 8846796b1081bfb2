import ScriptReview.Proofs.Scan.Padded
import ScriptReview.Proofs.Scan.Triggers
import ScriptReview.Proofs.Text.Replaced
import ScriptReview.Proofs.Text.Trim

/-!
Following the advice against `var`.

With `let ` in the place of every `var `, the built-in rule against `var` and the template for it
have nothing left to say, and nothing else in a report changes but the code that the other issues
show (`scan_modernize`). The other pieces that a scan looks for avoid both words, so that they are
found where they were found before. Where a trimmed line ends and what it ends with are seen from
its blank characters and its closing ones, and neither word differs from the other in these.
-/

namespace ScriptReview

/-! ## Issues apart from the code they show -/

/-- The issue with no code to show. -/
def Issue.withoutCode (issue : Issue) : Issue :=
  { issue with code := "" }

theorem LineRule.map_withoutCode_check {rule : LineRule} {line other : List Char}
    (h : rule.flags other = rule.flags line) (number : Count) :
    (rule.check number other).map Issue.withoutCode =
      (rule.check number line).map Issue.withoutCode := by
  rw [check, check, h]
  by_cases hflags : rule.flags line = true
  · rw [if_pos hflags, if_pos hflags]
    rfl
  · rw [if_neg hflags, if_neg hflags]

namespace Registry

/-- Every rule of the registry flags both lines or neither. -/
def FlagsAlike (registry : Registry) (line other : List Char) : Prop :=
  ∀ rule ∈ registry.lineRules, rule.flags other = rule.flags line

theorem FlagsAlike.checkLine {registry : Registry} {line other : List Char}
    (h : registry.FlagsAlike line other) (number : Count) :
    (registry.checkLine number other).map Issue.withoutCode =
      (registry.checkLine number line).map Issue.withoutCode := by
  rw [Registry.checkLine, Registry.checkLine, List.map_filterMap, List.map_filterMap]
  exact List.filterMap_congr fun rule hrule => LineRule.map_withoutCode_check (h rule hrule) number

theorem map_withoutCode_checkLines {registry : Registry} {lines others : List (List Char)}
    (h : List.Forall₂ registry.FlagsAlike lines others) (before : Nat) :
    (registry.checkLines before others).map Issue.withoutCode =
      (registry.checkLines before lines).map Issue.withoutCode := by
  induction h generalizing before with
  | nil => rfl
  | cons hline _ ih =>
    rw [checkLines, checkLines, List.map_append, List.map_append, hline.checkLine, ih]

end Registry

namespace Builtin

/-- The text with every `var ` replaced by `let `. -/
def modernize (text : List Char) : List Char :=
  Text.replaceAll "var ".toList "let ".toList text

/-! ## Pieces of a modernized text -/

/-- The pieces that a scan with the built-in registry looks for, apart from `var `. -/
def otherPieces : List String :=
  [" == ", " === ", "//", "return ", arrayMethods.trigger] ++ Metrics.functionMarkers ++
    Metrics.complexityMarkers

theorem prefix_drop_modernize_iff {piece : String} (h : piece ∈ otherPieces) (text : List Char)
    (position : Nat) :
    piece.toList <+: (modernize text).drop position ↔ piece.toList <+: text.drop position := by
  have havoids : ∀ piece ∈ otherPieces,
      Text.Avoids piece.toList (['v', 'a', 'r'] ++ [' ']) ∧
        Text.Avoids piece.toList (['l', 'e', 't'] ++ [' ']) := by decide
  have hlength : ['l', 'e', 't'].length = ['v', 'a', 'r'].length := rfl
  obtain ⟨hold, hnew⟩ := havoids piece h
  exact Text.prefix_drop_replaceAll_iff hlength hold hnew text position

theorem holds_modernize {piece : String} (h : piece ∈ otherPieces) (text : List Char) :
    holds (modernize text) piece = holds text piece :=
  Text.occurs_congr (prefix_drop_modernize_iff h text)

theorem occurrences_modernize {piece : String} (h : piece ∈ otherPieces) (text : List Char) :
    Text.occurrences piece.toList (modernize text) = Text.occurrences piece.toList text := by
  have hne : ∀ piece ∈ otherPieces, piece.toList ≠ [] := by decide
  exact Text.occurrences_congr (prefix_drop_modernize_iff h text) (hne piece h)

theorem not_applies_modernize (text : List Char) :
    modernDeclarations.applies (modernize text) = false :=
  Text.occurs_replaceAll_self (by decide) (by decide) (by decide) (by decide) text

/-- The old word does not come together from what stands around a new one either. -/
example : modernize "vvar ar a; va let r".toList = "vlet ar a; va let r".toList := by decide

theorem lines_modernize (text : List Char) :
    Text.lines (modernize text) = (Text.lines text).map modernize :=
  Text.lines_replaceAll (by decide) (by decide) (by decide) text

/-! ## Trimmed lines -/

/-- What the rule against missing semicolons sees of a character of a trimmed line. -/
def outline (c : Char) : Bool × Bool :=
  (Text.isBlank c, closers.contains c)

theorem endsClosed_eq (line : List Char) :
    endsClosed line = (line.map outline).getLast?.any Prod.snd := by
  rw [endsClosed, List.getLast?_map, Option.any_map]
  rfl

theorem map_outline_trim_modernize (line : List Char) :
    (Text.trim (modernize line)).map outline = (Text.trim line).map outline := by
  have hline : (modernize line).map outline = line.map outline :=
    Text.map_replaceAll (by decide) (by decide) line
  have hblank : Text.isBlank = Prod.fst ∘ outline := rfl
  rw [Text.trim_eq_trimBy, Text.trim_eq_trimBy, hblank, Text.map_trimBy, Text.map_trimBy, hline]

theorem isEmpty_trim_modernize (line : List Char) :
    (Text.trim (modernize line)).isEmpty = (Text.trim line).isEmpty := by
  rw [← List.isEmpty_map (f := outline), map_outline_trim_modernize, List.isEmpty_map]

theorem endsClosed_trim_modernize (line : List Char) :
    endsClosed (Text.trim (modernize line)) = endsClosed (Text.trim line) := by
  rw [endsClosed_eq, endsClosed_eq, map_outline_trim_modernize]

end Builtin

namespace Registry

open Builtin (modernize)

/-! ## The rest of the report -/

theorem flagsAlike_modernize (line : List Char) :
    (builtin.erase Builtin.varUsage.id).FlagsAlike line (modernize line) := by
  have hpiece : ∀ piece ∈ [" == ", " === ", "//", "return "], piece ∈ Builtin.otherPieces := by
    decide
  have hrules : (builtin.erase Builtin.varUsage.id).lineRules =
      [Builtin.looseEquality, Builtin.missingSemicolon] := rfl
  intro rule hrule
  rw [hrules, List.mem_cons, List.mem_singleton] at hrule
  rcases hrule with rfl | rfl
  · simp only [Builtin.looseEquality, Builtin.holds_modernize (hpiece " == " (by simp)),
      Builtin.holds_modernize (hpiece " === " (by simp))]
  · simp only [Builtin.missingSemicolon, Builtin.isEmpty_trim_modernize,
      Builtin.endsClosed_trim_modernize, Builtin.holds_modernize (hpiece "//" (by simp)),
      Builtin.holds_modernize (hpiece "return " (by simp))]

/-- The built-in registry without rules and without the template that speaks of `var`. -/
def arrayAdvice : Registry where
  lineRules := []
  templates := [Builtin.arrayMethods]

theorem suggestions_builtin (text : String) :
    (builtin.scan text).suggestions =
      (arrayAdvice.scan text).suggestions ++
        if Builtin.modernDeclarations.applies text.toList then
          [Builtin.modernDeclarations.suggestion]
        else [] := by
  have htemplates : builtin.templates =
      [Builtin.arrayMethods] ++ Builtin.modernDeclarations :: [] := rfl
  have hnothing : ({ builtin with templates := [] }.scan text).suggestions = [] := rfl
  rw [suggestions_of_append_cons htemplates, hnothing, List.append_nil]
  rfl

theorem filter_suggestions_builtin (text : String) :
    (builtin.scan text).suggestions.filter (·.category != "ES6+") =
      (arrayAdvice.scan text).suggestions := by
  have hkept : (arrayAdvice.scan text).suggestions.filter (·.category != "ES6+") =
      (arrayAdvice.scan text).suggestions := by
    refine List.filter_eq_self.mpr fun suggestion hsuggestion => ?_
    obtain ⟨template, htemplate, rfl⟩ := List.mem_map.mp hsuggestion
    obtain rfl := List.mem_singleton.mp (List.mem_filter.mp htemplate).1
    decide
  rw [suggestions_builtin, List.filter_append, hkept]
  by_cases happlies : Builtin.modernDeclarations.applies text.toList = true
  · have hdropped : [Builtin.modernDeclarations.suggestion].filter (·.category != "ES6+") = [] := by
      decide
    rw [if_pos happlies, hdropped, List.append_nil]
  · rw [if_neg happlies, List.filter_nil, List.append_nil]

theorem alike_modernize (line : List Char) : arrayAdvice.Alike line (modernize line) where
  checkLine _ := rfl
  applies template htemplate := by
    obtain rfl := List.mem_singleton.mp htemplate
    exact Builtin.holds_modernize (by decide) line
  declaresFunction := by
    have hpieces : Metrics.functionMarkers ⊆ Builtin.otherPieces := by decide
    exact Metrics.declaresFunction_congr fun marker hmarker =>
      Builtin.holds_modernize (hpieces hmarker) line
  occurrences marker hmarker := by
    have hpieces : Metrics.complexityMarkers ⊆ Builtin.otherPieces := by decide
    exact Builtin.occurrences_modernize (hpieces hmarker) line

theorem forall₂_lines_modernize {related : List Char → List Char → Prop}
    (h : ∀ line, related line (modernize line)) (text : List Char) :
    List.Forall₂ related (Text.lines text) (Text.lines (modernize text)) := by
  rw [Builtin.lines_modernize, List.forall₂_map_right_iff, List.forall₂_same]
  exact fun line _ => h line

theorem scan_arrayAdvice_modernize (text : String) :
    arrayAdvice.scan (String.ofList (modernize text.toList)) = arrayAdvice.scan text := by
  have htriggers : ∀ template ∈ arrayAdvice.templates, '\n' ∉ template.trigger.toList := by decide
  rw [scan, scan, String.toList_ofList]
  exact scanChars_congr (forall₂_lines_modernize alike_modernize text.toList) htriggers

/-- The other rules raise the same issues on a modernized text, apart from the code. -/
theorem issues_erase_modernize (text : String) :
    ((builtin.erase Builtin.varUsage.id).scan
        (String.ofList (modernize text.toList))).issues.map Issue.withoutCode =
      ((builtin.erase Builtin.varUsage.id).scan text).issues.map Issue.withoutCode := by
  rw [scan, scan, String.toList_ofList]
  exact map_withoutCode_checkLines (forall₂_lines_modernize flagsAlike_modernize text.toList) 0

theorem issues_erase_varUsage (text : String) :
    ((builtin.erase Builtin.varUsage.id).scan text).issues =
      (builtin.scan text).issues.filter (·.ruleId.name != "var-usage") := by
  rw [scan_erase]
  refine List.filter_congr fun issue _ => ?_
  rw [bne, RuleId.beq_eq_name_beq]
  rfl

/-- A text that follows the advice against `var` gets it no more, neither on a line nor on the
whole. The other issues stay as they are apart from the code that they show, and so do the other
suggestions and the figures. -/
theorem scan_modernize (text : String) :
    "var-usage" ∉ (builtin.scan (String.ofList (modernize text.toList))).issues.map
        (·.ruleId.name) ∧
      "ES6+" ∉ (builtin.scan (String.ofList (modernize text.toList))).suggestions.map
        (·.category) ∧
      (builtin.scan (String.ofList (modernize text.toList))).issues.map Issue.withoutCode =
        ((builtin.scan text).issues.filter (·.ruleId.name != "var-usage")).map
          Issue.withoutCode ∧
      (builtin.scan (String.ofList (modernize text.toList))).suggestions =
        (builtin.scan text).suggestions.filter (·.category != "ES6+") ∧
      (builtin.scan (String.ofList (modernize text.toList))).metrics =
        (builtin.scan text).metrics := by
  have hsilent : Builtin.modernDeclarations.applies
      (String.ofList (modernize text.toList)).toList ≠ true := by
    rw [String.toList_ofList, Builtin.not_applies_modernize]
    exact Bool.false_ne_true
  have hissue : "var-usage" ∉ (builtin.scan (String.ofList (modernize text.toList))).issues.map
      (·.ruleId.name) := fun hmem =>
    hsilent (pairsUp_builtin.exists_issue_iff_applies.mp (name_mem_iff.mp hmem))
  have hrest := scan_arrayAdvice_modernize text
  have hmetrics := congrArg Report.metrics hrest
  refine ⟨hissue, fun hmem => ?_, ?_, ?_, hmetrics⟩
  · exact hsilent ((builtin_category_mem_iff modernDeclarations_mem).mp hmem)
  · -- Without an issue from the rule against `var`, the other rules alone raise the same ones.
    have hothers : (builtin.scan (String.ofList (modernize text.toList))).issues.filter
        (·.ruleId.name != "var-usage") =
          (builtin.scan (String.ofList (modernize text.toList))).issues :=
      List.filter_eq_self.mpr fun issue hmem =>
        bne_iff_ne.mpr fun hname => hissue (hname ▸ List.mem_map_of_mem hmem)
    rw [← hothers, ← issues_erase_varUsage, ← issues_erase_varUsage, issues_erase_modernize]
  · rw [filter_suggestions_builtin, suggestions_builtin, if_neg hsilent, List.append_nil, hrest]

end Registry
end ScriptReview
