import ScriptReview.Proofs.Scan.Modernized

/-!
Following the advice against missing semicolons.

A semicolon behind a line ends what is left of the line after trimming, and none of the pieces that
a scan looks for has a semicolon in it. So the rule against missing semicolons has nothing more to
say about the line, and nothing else in a report changes but the code that the other issues on that
line show (`Registry.scan_addSemicolons`). Which issues are those of a line is told by the number of
lines before it, because the number in an issue is the same for all lines that are too far down to
be counted.
-/

namespace ScriptReview

namespace Builtin

/-- The line, with a semicolon behind it if it is chosen. -/
def semicolonBehind (chosen : Bool) (line : List Char) : List Char :=
  if chosen then line ++ [';'] else line

/-- The text with a semicolon behind each chosen line. Lines are chosen by the number of lines
before them. -/
def addSemicolons (chosen : Nat → Bool) (text : List Char) : List Char :=
  ['\n'].intercalate
    ((Text.lines text).mapIdx fun before line => semicolonBehind (chosen before) line)

/-! ## A semicolon behind a line -/

section Line

variable (chosen : Bool) (line : List Char)

theorem lines_addSemicolons (chosen : Nat → Bool) (text : List Char) :
    Text.lines (addSemicolons chosen text) =
      (Text.lines text).mapIdx fun before line => semicolonBehind (chosen before) line := by
  refine Text.lines_intercalate_mapIdx (fun before line hline => ?_) text
  rw [semicolonBehind]
  by_cases hchosen : chosen before = true
  · simp [hchosen, hline]
  · simpa [hchosen] using hline

/-- No piece that a scan looks for has a semicolon in it. -/
theorem semicolon_notMem_piece {piece : String} (h : piece ∈ "var " :: otherPieces) :
    piece.toList ≠ [] ∧ ∀ c ∈ [';'], c ∉ piece.toList := by
  have hpieces : ∀ piece ∈ "var " :: otherPieces, piece.toList ≠ [] ∧ ';' ∉ piece.toList := by
    decide
  exact ⟨(hpieces piece h).1, List.forall_mem_singleton.mpr (hpieces piece h).2⟩

theorem holds_semicolonBehind {piece : String} (h : piece ∈ "var " :: otherPieces) :
    holds (semicolonBehind chosen line) piece = holds line piece := by
  obtain ⟨hne, hsemicolon⟩ := semicolon_notMem_piece h
  cases chosen with
  | false => rfl
  | true => exact Text.occurs_append_right hne hsemicolon line

theorem occurrences_semicolonBehind {piece : String} (h : piece ∈ "var " :: otherPieces) :
    Text.occurrences piece.toList (semicolonBehind chosen line) =
      Text.occurrences piece.toList line := by
  obtain ⟨hne, hsemicolon⟩ := semicolon_notMem_piece h
  cases chosen with
  | false => rfl
  | true => exact Text.occurrences_append_right hne hsemicolon line

theorem endsClosed_trim_semicolon : endsClosed (Text.trim (line ++ [';'])) = true := by
  have hlast : ';' ∈ (line ++ [';']).getLast? := by simp
  have hvisible : Text.isBlank ';' = false := by decide
  rw [endsClosed, Text.trim_eq_trimBy, Text.getLast?_trimBy_of_mem hlast hvisible]
  decide

theorem not_flags_semicolon : missingSemicolon.flags (line ++ [';']) = false := by
  simp only [missingSemicolon, endsClosed_trim_semicolon, Bool.not_true, Bool.and_false,
    Bool.false_and]

end Line

end Builtin

namespace Registry

open Builtin (semicolonBehind addSemicolons)

/-! ## Issues by their lines -/

/-- The issues of lines that begin after `before` other lines, each with the number of lines before
its own. -/
def locateLines (registry : Registry) (before : Nat) : List (List Char) → List (Nat × Issue)
  | [] => []
  | line :: later =>
    (registry.checkLine (Count.clamp (before + 1)) line).map (fun issue => (before, issue)) ++
      registry.locateLines (before + 1) later

/-- The issues of a scan, each with the number of lines before its own. -/
def locatedIssues (registry : Registry) (text : String) : List (Nat × Issue) :=
  registry.locateLines 0 (Text.lines text.toList)

theorem map_snd_locateLines (registry : Registry) (before : Nat) (lines : List (List Char)) :
    (registry.locateLines before lines).map Prod.snd = registry.checkLines before lines := by
  induction lines generalizing before with
  | nil => rfl
  | cons line later ih =>
    rw [locateLines, checkLines, List.map_append, List.map_map, ih]
    exact congrArg (· ++ _) (List.map_id _)

theorem map_snd_locatedIssues (registry : Registry) (text : String) :
    (registry.locatedIssues text).map Prod.snd = (registry.scan text).issues :=
  map_snd_locateLines registry 0 (Text.lines text.toList)

theorem line_of_mem_locateLines {registry : Registry} {before : Nat} {lines : List (List Char)}
    {located : Nat × Issue} (h : located ∈ registry.locateLines before lines) :
    located.1 < before + lines.length ∧ located.2.line = Count.clamp (located.1 + 1) := by
  induction lines generalizing before with
  | nil => cases h
  | cons line later ih =>
    rw [List.length_cons]
    rcases List.mem_append.mp h with hhere | hlater
    · obtain ⟨issue, hissue, rfl⟩ := List.mem_map.mp hhere
      exact ⟨by omega, (mem_checkLine hissue).1⟩
    · obtain ⟨hbound, hline⟩ := ih hlater
      exact ⟨by omega, hline⟩

/-- In a text whose lines can all be counted, an issue tells by its number which line it is on. -/
theorem line_of_mem_locatedIssues {registry : Registry} {text : String}
    (hlines : (Text.lines text.toList).length ≤ Count.maximum) {located : Nat × Issue}
    (h : located ∈ registry.locatedIssues text) : located.2.line.toNat = located.1 + 1 := by
  obtain ⟨hbound, hline⟩ := line_of_mem_locateLines h
  rw [hline, Count.toNat_clamp]
  omega

/-! ## The report -/

/-- Not an issue from the rule against missing semicolons on a chosen line. -/
def stays (chosen : Bool) (issue : Issue) : Bool :=
  !(chosen && issue.ruleId == Builtin.missingSemicolon.id)

theorem flagsAlike_semicolonBehind (chosen : Bool) (line : List Char) :
    (builtin.erase Builtin.missingSemicolon.id).FlagsAlike line (semicolonBehind chosen line) := by
  have hrules : (builtin.erase Builtin.missingSemicolon.id).lineRules =
      [Builtin.varUsage, Builtin.looseEquality] := rfl
  intro rule hrule
  rw [hrules, List.mem_cons, List.mem_singleton] at hrule
  rcases hrule with rfl | rfl
  · exact Builtin.holds_semicolonBehind chosen line (by decide)
  · have hloose := Builtin.holds_semicolonBehind chosen line (show " == " ∈ _ by decide)
    have hstrict := Builtin.holds_semicolonBehind chosen line (show " === " ∈ _ by decide)
    simp only [Builtin.looseEquality, hloose, hstrict]

/-- A line with a semicolon behind it has no issue from the rule against missing semicolons. -/
theorem checkLine_semicolon (number : Count) (line : List Char) :
    builtin.checkLine number (line ++ [';']) =
      (builtin.erase Builtin.missingSemicolon.id).checkLine number (line ++ [';']) := by
  rw [checkLine_erase, eq_comm]
  refine List.filter_eq_self.mpr fun issue hissue => ?_
  obtain ⟨rule, hrule, hflags, rfl⟩ := mem_checkLine_iff.mp hissue
  rw [bne_iff_ne]
  intro hid
  have hother : rule = Builtin.missingSemicolon := by
    simp only [builtin, Builtin.lineRules, List.mem_cons, List.not_mem_nil, or_false] at hrule
    have hvar : Builtin.varUsage.id ≠ Builtin.missingSemicolon.id := by decide
    have hloose : Builtin.looseEquality.id ≠ Builtin.missingSemicolon.id := by decide
    rcases hrule with rfl | rfl | rfl
    · exact absurd hid hvar
    · exact absurd hid hloose
    · rfl
  rw [hother, Builtin.not_flags_semicolon] at hflags
  cases hflags

theorem checkLine_semicolonBehind (chosen : Bool) (number : Count) (line : List Char) :
    (builtin.checkLine number (semicolonBehind chosen line)).map Issue.withoutCode =
      ((builtin.checkLine number line).filter (stays chosen)).map Issue.withoutCode := by
  cases chosen with
  | false =>
    have hall : (builtin.checkLine number line).filter (stays false) =
        builtin.checkLine number line := List.filter_eq_self.mpr fun _ _ => rfl
    rw [hall]
    rfl
  | true =>
    have hothers : (builtin.erase Builtin.missingSemicolon.id).checkLine number line =
        (builtin.checkLine number line).filter (stays true) := checkLine_erase _ _ _ _
    have halike := (flagsAlike_semicolonBehind true line).checkLine number
    rw [← hothers, ← halike]
    exact congrArg _ (checkLine_semicolon number line)

theorem checkLines_semicolonBehind (chosen : Nat → Bool) (before : Nat)
    (lines : List (List Char)) :
    (builtin.checkLines before
        (lines.mapIdx fun index line => semicolonBehind (chosen (before + index)) line)).map
          Issue.withoutCode =
      ((builtin.locateLines before lines).filter fun located =>
        stays (chosen located.1) located.2).map fun located => located.2.withoutCode := by
  induction lines generalizing before with
  | nil => rfl
  | cons line later ih =>
    have hindex : ∀ index, before + 1 + index = before + (index + 1) := fun index => by omega
    have hlater := ih (before + 1)
    simp only [hindex] at hlater
    have hline : ((builtin.checkLine (Count.clamp (before + 1)) line).filter
        (stays (chosen before))).map Issue.withoutCode =
          (((builtin.checkLine (Count.clamp (before + 1)) line).map
            fun issue => (before, issue)).filter fun located =>
              stays (chosen located.1) located.2).map fun located => located.2.withoutCode := by
      rw [List.filter_map, List.map_map]
      rfl
    rw [List.mapIdx_cons, checkLines, locateLines, List.map_append, List.filter_append,
      List.map_append, checkLine_semicolonBehind, Nat.add_zero, hline, hlater]

theorem alike_semicolonBehind (chosen : Bool) (line : List Char) :
    { builtin with lineRules := [] }.Alike line (semicolonBehind chosen line) where
  checkLine _ := rfl
  applies template htemplate := by
    have hpieces : ∀ template ∈ Builtin.templates,
        template.trigger ∈ "var " :: Builtin.otherPieces := by decide
    exact Builtin.holds_semicolonBehind chosen line (hpieces template htemplate)
  declaresFunction := by
    have hpieces : Metrics.functionMarkers ⊆ "var " :: Builtin.otherPieces := by decide
    exact Metrics.declaresFunction_congr fun marker hmarker =>
      Builtin.holds_semicolonBehind chosen line (hpieces hmarker)
  occurrences marker hmarker := by
    have hpieces : Metrics.complexityMarkers ⊆ "var " :: Builtin.otherPieces := by decide
    exact Builtin.occurrences_semicolonBehind chosen line (hpieces hmarker)

/-- Apart from its issues, a report does not change. -/
theorem suggestions_and_ofText_addSemicolons (chosen : Nat → Bool) (text : List Char) :
    builtin.suggestions (addSemicolons chosen text) = builtin.suggestions text ∧
      Metrics.ofText (addSemicolons chosen text) = Metrics.ofText text := by
  have hlines : List.Forall₂ { builtin with lineRules := [] }.Alike (Text.lines text)
      (Text.lines (addSemicolons chosen text)) := by
    rw [Builtin.lines_addSemicolons]
    exact Text.forall₂_mapIdx (fun before => alike_semicolonBehind (chosen before)) _
  have htriggers : ∀ template ∈ builtin.templates, '\n' ∉ template.trigger.toList := by decide
  have hscan := scanChars_congr hlines htriggers
  rw [scanChars, scanChars, Report.mk.injEq] at hscan
  exact hscan.2

/-- The issues that stay, told by their numbers if all lines can be counted. -/
theorem filter_locatedIssues {text : String}
    (hlines : (Text.lines text.toList).length ≤ Count.maximum) (chosen : Nat → Bool) :
    ((builtin.locatedIssues text).filter fun located =>
        stays (chosen located.1) located.2).map Prod.snd =
      (builtin.scan text).issues.filter fun issue =>
        stays (chosen (issue.line.toNat - 1)) issue := by
  rw [← map_snd_locatedIssues, List.filter_map]
  refine congrArg _ (List.filter_congr fun located hlocated => ?_)
  rw [Function.comp_apply, line_of_mem_locatedIssues hlines hlocated, Nat.add_sub_cancel]

/-- Semicolons behind some lines take the issues about missing semicolons away from these lines, and
no others. What is left stays as it is and in its order, apart from the code that it shows, and so
do the suggestions and the figures. -/
theorem scan_addSemicolons (chosen : Nat → Bool) (text : String) :
    (builtin.locatedIssues text).map Prod.snd = (builtin.scan text).issues ∧
      (builtin.scan (String.ofList (addSemicolons chosen text.toList))).issues.map
          Issue.withoutCode =
        ((builtin.locatedIssues text).filter fun located =>
          !(chosen located.1 && located.2.ruleId == Builtin.missingSemicolon.id)).map
            (fun located => located.2.withoutCode) ∧
      ((Text.lines text.toList).length ≤ Count.maximum →
        (builtin.scan (String.ofList (addSemicolons chosen text.toList))).issues.map
            Issue.withoutCode =
          ((builtin.scan text).issues.filter fun issue =>
            !(chosen (issue.line.toNat - 1) &&
              issue.ruleId == Builtin.missingSemicolon.id)).map Issue.withoutCode) ∧
      (builtin.scan (String.ofList (addSemicolons chosen text.toList))).suggestions =
        (builtin.scan text).suggestions ∧
      (builtin.scan (String.ofList (addSemicolons chosen text.toList))).metrics =
        (builtin.scan text).metrics := by
  have hissues : (builtin.scan (String.ofList (addSemicolons chosen text.toList))).issues.map
      Issue.withoutCode =
        ((builtin.locatedIssues text).filter fun located =>
          stays (chosen located.1) located.2).map fun located => located.2.withoutCode := by
    have hlines := checkLines_semicolonBehind chosen 0 (Text.lines text.toList)
    simp only [Nat.zero_add] at hlines
    rw [scan, scanChars, String.toList_ofList, Builtin.lines_addSemicolons]
    exact hlines
  obtain ⟨hsuggestions, hmetrics⟩ := suggestions_and_ofText_addSemicolons chosen text.toList
  refine ⟨map_snd_locatedIssues builtin text, hissues, fun hlines => ?_, ?_, ?_⟩
  · have hnumbers := congrArg (List.map Issue.withoutCode) (filter_locatedIssues hlines chosen)
    rw [List.map_map] at hnumbers
    exact hissues.trans hnumbers
  · rw [scan, scan, String.toList_ofList]
    exact hsuggestions
  · rw [scan, scan, String.toList_ofList]
    exact hmetrics

/-- Of three lines without a semicolon the first two get one. -/
theorem scan_addSemicolons_two :
    (Text.lines "return a\n return b == c \nreturn d".toList).length ≤ Count.maximum ∧
      (builtin.scan "return a\n return b == c \nreturn d").issues.map
          (fun issue => (issue.ruleId.name, issue.line.toNat)) =
        [("missing-semicolon", 1), ("loose-equality", 2), ("missing-semicolon", 2),
          ("missing-semicolon", 3)] ∧
      (builtin.scan (String.ofList
          (addSemicolons (· < 2) "return a\n return b == c \nreturn d".toList))).issues.map
          (fun issue => (issue.ruleId.name, issue.line.toNat)) =
        [("loose-equality", 2), ("missing-semicolon", 3)] := by
  have hlines : (Text.lines "return a\n return b == c \nreturn d".toList).length ≤
      Count.maximum := by decide
  have hissues := (scan_addSemicolons (· < 2) "return a\n return b == c \nreturn d").2.2.1 hlines
  have hnames := congrArg (List.map fun issue => (issue.ruleId.name, issue.line.toNat)) hissues
  rw [List.map_map, List.map_map] at hnames
  refine ⟨hlines, by decide, hnames.trans ?_⟩
  decide

end Registry
end ScriptReview
