import Mathlib.Data.List.Basic
import ScriptReview.Proofs.Registry.Toggles
import ScriptReview.Proofs.Text.Padded
import ScriptReview.Registry.Scan

/-!
Where the findings of a scan come from.

The issues of a text are those of its lines, one line after the other. There is one wherever a rule
flags a line, and each is raised by a rule on the line it is about (`mem_issues_iff`). Its code is
what trimming leaves of that line and so has no line feed. Each suggestion is the one of a template.
-/

namespace ScriptReview

/-- What a rule raises under a number and on a line that is left with this code. -/
def LineRule.issueOn (rule : LineRule) (number : Count) (code : List Char) : Issue where
  ruleId := rule.id
  kind := rule.kind
  line := number
  message := rule.message
  code := String.ofList code
  severity := rule.severity

theorem LineRule.check_eq_some_iff {rule : LineRule} {number : Count} {line : List Char}
    {issue : Issue} :
    rule.check number line = some issue ↔
      rule.flags line = true ∧ rule.issueOn number (Text.trim line) = issue := by
  rw [check, Option.ite_none_right_eq_some, Option.some.injEq]
  rfl

namespace Registry

variable {registry : Registry} {text : String}

/-! ## Issues -/

theorem mem_checkLine_iff {number : Count} {line : List Char} {issue : Issue} :
    issue ∈ registry.checkLine number line ↔
      ∃ rule ∈ registry.lineRules, rule.flags line = true ∧
        rule.issueOn number (Text.trim line) = issue := by
  rw [checkLine, List.mem_filterMap]
  simp only [LineRule.check_eq_some_iff]

theorem exists_rule_of_mem_checkLine {number : Count} {line : List Char} {issue : Issue}
    (h : issue ∈ registry.checkLine number line) :
    ∃ rule ∈ registry.lineRules, rule.issueOn number (Text.trim line) = issue := by
  obtain ⟨rule, hrule, -, hraised⟩ := mem_checkLine_iff.mp h
  exact ⟨rule, hrule, hraised⟩

theorem checkLines_eq_flatten (registry : Registry) (before : Nat) (lines : List (List Char)) :
    registry.checkLines before lines =
      (lines.mapIdx fun index line =>
        registry.checkLine (Count.clamp (before + index + 1)) line).flatten := by
  induction lines generalizing before with
  | nil => rfl
  | cons line lines ih =>
    have hnumber : ∀ index, before + 1 + index + 1 = before + (index + 1) + 1 :=
      fun index => by omega
    rw [checkLines, List.mapIdx_cons, List.flatten_cons, ih, Nat.add_zero]
    simp only [hnumber]

/-- The issues of a scan, each raised by a rule on a line behind so many others. -/
theorem mem_issues_iff {issue : Issue} :
    issue ∈ (registry.scan text).issues ↔
      ∃ before line, (Text.lines text.toList)[before]? = some line ∧
        ∃ rule ∈ registry.lineRules, rule.flags line = true ∧
          rule.issueOn (Count.clamp (before + 1)) (Text.trim line) = issue := by
  have hissues : (registry.scan text).issues = registry.checkLines 0 (Text.lines text.toList) := rfl
  rw [hissues, checkLines_eq_flatten, List.mem_flatten]
  constructor
  · intro h
    obtain ⟨found, hfound, hissue⟩ := h
    obtain ⟨before, hbefore, rfl⟩ := List.mem_mapIdx.mp hfound
    rw [Nat.zero_add] at hissue
    exact ⟨before, _, List.getElem?_eq_getElem hbefore, mem_checkLine_iff.mp hissue⟩
  · intro h
    obtain ⟨before, line, hline, hraised⟩ := h
    obtain ⟨hbefore, hget⟩ := List.getElem?_eq_some_iff.mp hline
    refine ⟨_, List.mem_mapIdx.mpr ⟨before, hbefore, rfl⟩, ?_⟩
    rw [Nat.zero_add, hget]
    exact mem_checkLine_iff.mpr hraised

theorem exists_rule_of_mem_issues {issue : Issue} (h : issue ∈ (registry.scan text).issues) :
    ∃ rule ∈ registry.lineRules, ∃ number, ∃ line ∈ Text.lines text.toList,
      rule.issueOn number (Text.trim line) = issue := by
  obtain ⟨before, line, hline, rule, hrule, -, hraised⟩ := mem_issues_iff.mp h
  exact ⟨rule, hrule, _, line, List.mem_of_getElem? hline, hraised⟩

/-- On one line each rule has its turn once. -/
theorem sublist_map_ruleId_checkLine (registry : Registry) (number : Count) (line : List Char) :
    ((registry.checkLine number line).map (·.ruleId)).Sublist (registry.lineRules.map (·.id)) := by
  rw [checkLine]
  induction registry.lineRules with
  | nil => exact List.Sublist.slnil
  | cons rule rules ih =>
    rw [List.filterMap_cons, List.map_cons]
    cases hcheck : rule.check number line with
    | none => exact ih.cons rule.id
    | some issue =>
      rw [← (LineRule.check_eq_some_iff.mp hcheck).2]
      exact ih.cons_cons rule.id

/-! ## Suggestions -/

theorem exists_template_of_mem_suggestions {suggestion : Suggestion}
    (h : suggestion ∈ (registry.scan text).suggestions) :
    ∃ template ∈ registry.templates, template.suggestion = suggestion := by
  obtain ⟨template, htemplate, rfl⟩ := List.mem_map.mp h
  exact ⟨template, (List.mem_filter.mp htemplate).1, rfl⟩

end Registry

/-! ## Built-in rules and templates -/

/-- The issue is one of a built-in rule on a single line. -/
def Issue.IsBuiltin (issue : Issue) : Prop :=
  ∃ rule ∈ Builtin.lineRules, ∃ number code, '\n' ∉ code ∧ rule.issueOn number code = issue

/-- The suggestion is one of a built-in template. -/
def Suggestion.IsBuiltin (suggestion : Suggestion) : Prop :=
  ∃ template ∈ Builtin.templates, template.suggestion = suggestion

/-- Nothing in the report comes from other rules or templates than the built-in ones. -/
structure Report.IsBuiltin (report : Report) : Prop where
  issues : ∀ issue ∈ report.issues, issue.IsBuiltin
  suggestions : ∀ suggestion ∈ report.suggestions, suggestion.IsBuiltin

theorem Registry.isBuiltin_scan_switched (entries : List (RuleId × Bool)) (text : String) :
    ((builtin.switched entries).scan text).IsBuiltin := by
  refine ⟨fun issue hissue => ?_, fun suggestion hsuggestion => ?_⟩
  · obtain ⟨rule, hrule, number, line, hline, rfl⟩ := exists_rule_of_mem_issues hissue
    have hcode : '\n' ∉ Text.trim line := fun hmem =>
      Text.newline_notMem_of_mem_lines hline (Text.mem_of_mem_trim hmem)
    exact ⟨rule, lineRules_switched_subset _ _ hrule, number, _, hcode, rfl⟩
  · obtain ⟨template, htemplate, rfl⟩ := exists_template_of_mem_suggestions hsuggestion
    exact ⟨template, templates_switched_subset _ _ htemplate, rfl⟩

end ScriptReview
