import ScriptReview.Proofs.Registry.Edits
import ScriptReview.Proofs.Scan.Findings

/-!
Scanning with more rules or fewer.

A rule has a part in a report only through its own issues, and a template only through its own
suggestion (`scan_selection`). One scan is related to another line by line: if on each line the
issues of one registry are some of the issues of another one, chosen by what they say, then so are
the issues of a whole text (`checkLines_eq_filter`).
-/

namespace ScriptReview

theorem LineRule.mem_check_toList {rule : LineRule} {number : Count} {line : List Char}
    {issue : Issue} (h : issue ∈ (rule.check number line).toList) :
    issue.ruleId = rule.id ∧ issue.line = number :=
  of_check (Option.mem_toList.mp h)

namespace Registry

/-- The templates that make a suggestion on the text. -/
def calledTemplates (registry : Registry) (text : List Char) : List Template :=
  registry.templates.filter (·.applies text)

theorem checkLines_eq_filter {registry other : Registry} {keep : Issue → Bool}
    (h : ∀ number line,
      other.checkLine number line = (registry.checkLine number line).filter keep)
    (before : Nat) (lines : List (List Char)) :
    other.checkLines before lines = (registry.checkLines before lines).filter keep := by
  induction lines generalizing before with
  | nil => rfl
  | cons line lines ih => rw [checkLines, checkLines, List.filter_append, h, ih]

/-! ## Fewer rules -/

theorem checkLine_erase (registry : Registry) (id : RuleId) (number : Count) (line : List Char) :
    (registry.erase id).checkLine number line =
      (registry.checkLine number line).filter (·.ruleId != id) := by
  rw [checkLine, checkLine, erase, List.filterMap_filter, List.filter_filterMap]
  refine congrArg (List.filterMap · registry.lineRules) (funext fun rule => ?_)
  -- An issue has the identifier of its rule, so both sides drop it or both keep it.
  cases hcheck : rule.check number line with
  | none => simp
  | some issue => simp [Option.filter, (LineRule.of_check hcheck).1]

theorem calledTemplates_erase (registry : Registry) (id : RuleId) (text : List Char) :
    (registry.erase id).calledTemplates text =
      (registry.calledTemplates text).filter (·.name != id.name) := by
  rw [calledTemplates, calledTemplates, erase, List.filter_filter, List.filter_filter]
  exact List.filter_congr fun template _ => Bool.and_comm _ _

theorem scan_erase (registry : Registry) (id : RuleId) (text : String) :
    (registry.erase id).scan text =
      { issues := (registry.scan text).issues.filter (·.ruleId != id)
        suggestions :=
          ((registry.calledTemplates text.toList).filter (·.name != id.name)).map (·.suggestion)
        metrics := (registry.scan text).metrics } := by
  have hissues := checkLines_eq_filter (registry.checkLine_erase id) 0 (Text.lines text.toList)
  have hsuggestions : (registry.erase id).suggestions text.toList =
      ((registry.erase id).calledTemplates text.toList).map (·.suggestion) := rfl
  rw [scan, scanChars, hissues, hsuggestions, calledTemplates_erase]
  rfl

/-! ## One rule more -/

theorem checkLine_addLineRule (registry : Registry) (rule : LineRule) (number : Count)
    (line : List Char) :
    (registry.addLineRule rule).checkLine number line =
      registry.checkLine number line ++ (rule.check number line).toList := by
  rw [checkLine, checkLine, addLineRule, List.filterMap_append]
  cases hcheck : rule.check number line <;> simp [hcheck]

/-- The issues on a line that have an identifier which no rule has. -/
theorem ruleId_ne_of_mem_checkLine {registry : Registry} {id : RuleId}
    (h : ∀ rule ∈ registry.lineRules, rule.id ≠ id) {number : Count} {line : List Char}
    {issue : Issue} (hissue : issue ∈ registry.checkLine number line) : issue.ruleId ≠ id := by
  obtain ⟨-, rule, hrule, hid⟩ := mem_checkLine hissue
  rw [hid]
  exact h rule hrule

section AddLineRule

variable {registry : Registry} {rule : LineRule}

/-- Without the issues of a new rule, those of the old rules are left. -/
theorem checkLine_eq_filter_addLineRule (h : ∀ other ∈ registry.lineRules, other.id ≠ rule.id)
    (number : Count) (line : List Char) :
    registry.checkLine number line =
      ((registry.addLineRule rule).checkLine number line).filter (·.ruleId != rule.id) := by
  have hold : (registry.checkLine number line).filter (·.ruleId != rule.id) =
      registry.checkLine number line :=
    List.filter_eq_self.mpr fun issue hissue => by
      simpa using ruleId_ne_of_mem_checkLine h hissue
  have hnew : (rule.check number line).toList.filter (·.ruleId != rule.id) = [] :=
    List.filter_eq_nil_iff.mpr fun issue hissue => by
      simp [(LineRule.mem_check_toList hissue).1]
  rw [checkLine_addLineRule, List.filter_append, hold, hnew, List.append_nil]

/-- What a new rule raises among others is what it raises by itself. -/
theorem checkLine_alone_eq_filter (h : ∀ other ∈ registry.lineRules, other.id ≠ rule.id)
    (number : Count) (line : List Char) :
    (empty.addLineRule rule).checkLine number line =
      ((registry.addLineRule rule).checkLine number line).filter (·.ruleId == rule.id) := by
  have hold : (registry.checkLine number line).filter (·.ruleId == rule.id) = [] :=
    List.filter_eq_nil_iff.mpr fun issue hissue => by
      simpa using ruleId_ne_of_mem_checkLine h hissue
  have hnew : (rule.check number line).toList.filter (·.ruleId == rule.id) =
      (rule.check number line).toList :=
    List.filter_eq_self.mpr fun issue hissue => by
      simp [(LineRule.mem_check_toList hissue).1]
  rw [checkLine_addLineRule, checkLine_addLineRule, List.filter_append, hold, hnew]
  rfl

/-- No issue of the identifier stands before another issue of its line. -/
def LastOnLine (id : RuleId) (first second : Issue) : Prop :=
  first.line = second.line → first.ruleId = id → second.ruleId = id

theorem pairwise_checkLine_addLineRule (h : ∀ other ∈ registry.lineRules, other.id ≠ rule.id)
    (number : Count) (line : List Char) :
    ((registry.addLineRule rule).checkLine number line).Pairwise (LastOnLine rule.id) := by
  rw [checkLine_addLineRule]
  refine List.pairwise_append.mpr ⟨?_, ?_, fun first _ second hsecond _ _ => ?_⟩
  · refine List.pairwise_of_forall_mem_list fun first hfirst second _ _ hid => ?_
    exact absurd hid (ruleId_ne_of_mem_checkLine h hfirst)
  · cases rule.check number line with
    | none => exact List.Pairwise.nil
    | some issue => exact List.pairwise_singleton _ issue
  · exact (LineRule.mem_check_toList hsecond).1

theorem pairwise_checkLines_addLineRule (h : ∀ other ∈ registry.lineRules, other.id ≠ rule.id)
    {before : Nat} {lines : List (List Char)} (hlines : before + lines.length ≤ Count.maximum) :
    ((registry.addLineRule rule).checkLines before lines).Pairwise (LastOnLine rule.id) := by
  induction lines generalizing before with
  | nil => exact List.Pairwise.nil
  | cons line lines ih =>
    rw [List.length_cons] at hlines
    have hlater : before + 1 + lines.length ≤ Count.maximum := by omega
    refine List.pairwise_append.mpr ⟨pairwise_checkLine_addLineRule h _ line, ih hlater, ?_⟩
    intro first hfirst second hsecond hline
    -- The two are on different lines, which the bound keeps from sharing a number.
    have hlt := lt_line_of_mem_checkLines hlater hsecond
    rw [← hline, (mem_checkLine hfirst).1, Count.toNat_clamp] at hlt
    omega

end AddLineRule

/-- A registry finds what it found before, apart from what the rule or the template in question has
to say. The bound on the lines keeps two lines from having the same number. -/
theorem scan_selection (registry : Registry) (text : String) :
    (registry.scan text).suggestions =
        (registry.calledTemplates text.toList).map (·.suggestion) ∧
      (∀ id, registry.contains id = true →
        (registry.edit (.disable id)).2 = .ok () ∧
        (registry.edit (.disable id)).1.scan text =
          { issues := (registry.scan text).issues.filter (·.ruleId != id)
            suggestions :=
              ((registry.calledTemplates text.toList).filter (·.name != id.name)).map
                (·.suggestion)
            metrics := (registry.scan text).metrics }) ∧
      (∀ rule, registry.contains rule.id = false →
        ((registry.addLineRule rule).scan text).issues.filter (·.ruleId != rule.id) =
            (registry.scan text).issues ∧
        ((registry.addLineRule rule).scan text).issues.filter (·.ruleId == rule.id) =
            ((empty.addLineRule rule).scan text).issues ∧
        ((Text.lines text.toList).length ≤ Count.maximum →
          ((registry.addLineRule rule).scan text).issues.Pairwise (LastOnLine rule.id)) ∧
        ((registry.addLineRule rule).scan text).suggestions = (registry.scan text).suggestions ∧
        ((registry.addLineRule rule).scan text).metrics = (registry.scan text).metrics) := by
  refine ⟨rfl, fun id hid => ?_, fun rule hid => ?_⟩
  · rw [edit_disable_of_contains hid]
    exact ⟨rfl, scan_erase registry id text⟩
  · have hrules : ∀ other ∈ registry.lineRules, other.id ≠ rule.id := by
      intro other hother heq
      rw [contains_eq_true_iff.mpr (Or.inl ⟨other, hother, heq⟩)] at hid
      cases hid
    have hwithout := checkLines_eq_filter (checkLine_eq_filter_addLineRule hrules) 0
      (Text.lines text.toList)
    have halone := checkLines_eq_filter (checkLine_alone_eq_filter hrules) 0
      (Text.lines text.toList)
    refine ⟨hwithout.symm, halone.symm, fun hlines => ?_, rfl, rfl⟩
    exact pairwise_checkLines_addLineRule hrules (by omega)

theorem scan_selection_builtin :
    builtin.contains Builtin.varUsage.id = true ∧
      (((builtin.edit (.disable Builtin.varUsage.id)).1.scan
          "var a = b == 1;\nreturn a").issues.map fun issue =>
        (issue.ruleId.name, issue.line.toNat)) =
        [("loose-equality", 1), ("missing-semicolon", 2)] ∧
      (builtin.erase Builtin.looseEquality.id).contains Builtin.looseEquality.id = false ∧
      (Text.lines "var a = b == 1;\nreturn a".toList).length ≤ Count.maximum ∧
      (((builtin.erase Builtin.looseEquality.id).addLineRule Builtin.looseEquality).scan
          "var a = b == 1;\nreturn a").issues.Pairwise (LastOnLine Builtin.looseEquality.id) ∧
      ((((builtin.erase Builtin.looseEquality.id).addLineRule Builtin.looseEquality).scan
          "var a = b == 1;\nreturn a").issues.filter
            (·.ruleId == Builtin.looseEquality.id)).length = 1 := by
  have hpresent : builtin.contains Builtin.varUsage.id = true := by decide
  have habsent : (builtin.erase Builtin.looseEquality.id).contains Builtin.looseEquality.id =
      false := by decide
  have hlines : (Text.lines "var a = b == 1;\nreturn a".toList).length ≤ Count.maximum := by
    decide
  have hfewer := (scan_selection builtin "var a = b == 1;\nreturn a").2.1
    Builtin.varUsage.id hpresent
  obtain ⟨-, halone, hlast, -, -⟩ :=
    (scan_selection (builtin.erase Builtin.looseEquality.id) "var a = b == 1;\nreturn a").2.2
      Builtin.looseEquality habsent
  refine ⟨hpresent, ?_, habsent, hlines, hlast hlines, ?_⟩
  · rw [hfewer.2]
    decide
  · rw [halone]
    decide

end Registry
end ScriptReview
