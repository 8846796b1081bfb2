import ScriptReview.Proofs.Report.Occurrences
import ScriptReview.Proofs.Scan.Selection
import ScriptReview.Proofs.Scan.Sources

/-!
Suggestions that come together with issues.

A template looks for its trigger in the text as a whole, and a rule looks at one line after the
other. A piece of text without a line feed is found in the one way just if it is found in the other,
so that a rule and a template for the same piece speak up together (`scan_triggers_agree`). The
built-in rule against `var` and the template with the same trigger are such a pair.
-/

namespace ScriptReview
namespace Registry

/-- A rule of the registry flags the lines with the trigger of one of its templates. No other rule
has the identifier of that rule. -/
structure PairsUp (registry : Registry) (rule : LineRule) (template : Template) : Prop where
  rule_mem : rule ∈ registry.lineRules
  template_mem : template ∈ registry.templates
  eq_of_id : ∀ other ∈ registry.lineRules, other.id = rule.id → other = rule
  newline_notMem : '\n' ∉ template.trigger.toList
  flags_eq : ∀ line, '\n' ∉ line → rule.flags line = Text.occurs template.trigger.toList line

variable {registry : Registry} {text : String}

/-! ## Issues of one rule -/

theorem exists_issue_iff {rule : LineRule} (hrule : rule ∈ registry.lineRules)
    (hid : ∀ other ∈ registry.lineRules, other.id = rule.id → other = rule) :
    (∃ issue ∈ (registry.scan text).issues, issue.ruleId = rule.id) ↔
      ∃ line ∈ Text.lines text.toList, rule.flags line = true := by
  constructor
  · intro h
    obtain ⟨issue, hissue, hsame⟩ := h
    obtain ⟨before, line, hline, other, hother, hflags, rfl⟩ := mem_issues_iff.mp hissue
    have heq : other = rule := hid other hother hsame
    rw [heq] at hflags
    exact ⟨line, List.mem_of_getElem? hline, hflags⟩
  · intro h
    obtain ⟨line, hline, hflags⟩ := h
    obtain ⟨before, hget⟩ := List.mem_iff_getElem?.mp hline
    exact ⟨_, mem_issues_iff.mpr ⟨before, line, hget, rule, hrule, hflags, rfl⟩, rfl⟩

theorem PairsUp.exists_issue_iff_applies {rule : LineRule} {template : Template}
    (h : registry.PairsUp rule template) :
    (∃ issue ∈ (registry.scan text).issues, issue.ruleId = rule.id) ↔
      template.applies text.toList = true := by
  rw [exists_issue_iff h.rule_mem h.eq_of_id, Template.applies,
    Text.occurs_eq_any_lines h.newline_notMem, List.any_eq_true]
  refine exists_congr fun line => and_congr_right fun hline => ?_
  rw [h.flags_eq line (Text.newline_notMem_of_mem_lines hline)]

/-! ## The suggestion of one template -/

theorem suggestions_of_append_cons {front back : List Template} {template : Template}
    (h : registry.templates = front ++ template :: back) :
    (registry.scan text).suggestions =
      ({ registry with templates := front }.scan text).suggestions ++
        ((if template.applies text.toList then [template.suggestion] else []) ++
          ({ registry with templates := back }.scan text).suggestions) := by
  have hsuggestions : (registry.scan text).suggestions =
      (registry.templates.filter (·.applies text.toList)).map (·.suggestion) := rfl
  rw [hsuggestions, h, List.filter_append, List.map_append, List.filter_cons]
  refine congrArg _ ?_
  by_cases happlies : template.applies text.toList = true
  · rw [if_pos happlies, if_pos happlies]
    rfl
  · rw [if_neg happlies, if_neg happlies]
    rfl

/-- A category that a single template has. -/
theorem category_mem_iff {template : Template} (htemplate : template ∈ registry.templates)
    (hcategory : ∀ other ∈ registry.templates,
      other.suggestion.category = template.suggestion.category → other = template) :
    template.suggestion.category ∈ (registry.scan text).suggestions.map (·.category) ↔
      template.applies text.toList = true := by
  rw [List.mem_map]
  constructor
  · intro h
    obtain ⟨suggestion, hsuggestion, hsame⟩ := h
    obtain ⟨other, hother, rfl⟩ := List.mem_map.mp hsuggestion
    obtain ⟨hmem, happlies⟩ := List.mem_filter.mp hother
    rw [hcategory other hmem hsame] at happlies
    exact happlies
  · intro happlies
    have hcalled : template ∈ registry.calledTemplates text.toList :=
      List.mem_filter.mpr ⟨htemplate, happlies⟩
    exact ⟨template.suggestion, List.mem_map_of_mem hcalled, rfl⟩

/-! ## Built-in rules and templates -/

theorem arrayMethods_mem : Builtin.arrayMethods ∈ Builtin.templates := List.mem_cons_self

theorem modernDeclarations_mem : Builtin.modernDeclarations ∈ Builtin.templates :=
  List.mem_cons_of_mem _ (List.mem_singleton_self _)

theorem pairsUp_builtin : builtin.PairsUp Builtin.varUsage Builtin.modernDeclarations where
  rule_mem := List.mem_cons_self
  template_mem := modernDeclarations_mem
  eq_of_id other hother hid := by
    simp only [builtin, Builtin.lineRules, List.mem_cons, List.not_mem_nil, or_false] at hother
    rcases hother with rfl | rfl | rfl
    · rfl
    · exact absurd hid (by decide)
    · exact absurd hid (by decide)
  newline_notMem := by decide
  flags_eq _ _ := rfl

theorem builtin_category_mem_iff {template : Template} (h : template ∈ Builtin.templates) :
    template.suggestion.category ∈ (builtin.scan text).suggestions.map (·.category) ↔
      template.applies text.toList = true := by
  have hne : Builtin.arrayMethods.suggestion.category ≠
      Builtin.modernDeclarations.suggestion.category := by decide
  refine category_mem_iff h fun other hother hsame => ?_
  simp only [builtin, Builtin.templates, List.mem_cons, List.not_mem_nil, or_false] at h hother
  rcases h with rfl | rfl <;> rcases hother with rfl | rfl
  · rfl
  · exact absurd hsame.symm hne
  · exact absurd hsame hne
  · rfl

theorem name_mem_iff {id : RuleId} :
    id.name ∈ (registry.scan text).issues.map (·.ruleId.name) ↔
      ∃ issue ∈ (registry.scan text).issues, issue.ruleId = id := by
  rw [List.mem_map]
  refine exists_congr fun issue => and_congr_right fun _ => ?_
  exact ⟨RuleId.ext, congrArg RuleId.name⟩

theorem complexity_pos_of_arrayMethods (h : Builtin.arrayMethods.applies text.toList = true) :
    0 < (builtin.scan text).metrics.complexity.toNat := by
  have htrigger : "for (".toList <:+: text.toList := Text.occurs_iff_isInfix.mp h
  have hmarker : "for ".toList <:+: "for (".toList := ⟨[], ['('], by decide⟩
  refine Metrics.complexityScore_pos_iff.mpr ⟨"for ", by decide, ?_⟩
  exact Text.occurs_iff_isInfix.mpr (hmarker.trans htrigger)

/-- The built-in rules and templates agree on `var`, and a text that calls for array methods is not
without complexity. Wherever a rule and a template look for the same piece, the template makes its
suggestion, in its place among those of the other templates, just if there is an issue from the
rule. -/
theorem scan_triggers_agree :
    (∀ text : String,
      ("ES6+" ∈ (builtin.scan text).suggestions.map (·.category) ↔
        "var-usage" ∈ (builtin.scan text).issues.map (·.ruleId.name)) ∧
      ("Modern JavaScript" ∈ (builtin.scan text).suggestions.map (·.category) →
        1 ≤ (builtin.scan text).metrics.complexity.toNat)) ∧
    ∀ (registry : Registry) (rule : LineRule) (template : Template),
      registry.PairsUp rule template → ∀ text : String,
        (template ∈ registry.calledTemplates text.toList ↔
          ∃ issue ∈ (registry.scan text).issues, issue.ruleId = rule.id) ∧
        ∀ front back, registry.templates = front ++ template :: back →
          (registry.scan text).suggestions =
            ({ registry with templates := front }.scan text).suggestions ++
              ((if ∃ issue ∈ (registry.scan text).issues, issue.ruleId = rule.id then
                  [template.suggestion] else []) ++
                ({ registry with templates := back }.scan text).suggestions) := by
  refine ⟨fun text => ⟨?_, fun h => ?_⟩, fun registry rule template h text => ⟨?_, ?_⟩⟩
  · have hadvice := @builtin_category_mem_iff text _ modernDeclarations_mem
    exact hadvice.trans (pairsUp_builtin.exists_issue_iff_applies.symm.trans name_mem_iff.symm)
  · exact complexity_pos_of_arrayMethods ((builtin_category_mem_iff arrayMethods_mem).mp h)
  · rw [h.exists_issue_iff_applies, calledTemplates, List.mem_filter]
    exact and_iff_right h.template_mem
  · intro front back htemplates
    rw [suggestions_of_append_cons htemplates]
    simp only [h.exists_issue_iff_applies]

/-! ## A pair of one's own -/

def evalRule : LineRule where
  id := ⟨"eval-call", by decide⟩
  description := "Flags calls of eval"
  kind := .error
  severity := .high
  message := "Do not evaluate text"
  flags line := Builtin.holds line "eval("

def evalTemplate : Template where
  name := "json-parse"
  trigger := "eval("
  suggestion :=
    { category := "JSON"
      title := "Parse Instead"
      description := "Text that is data can be parsed"
      exampleCode := "JSON.parse(text)" }

/-- The built-in registry with one more rule and one more template. -/
def withEval : Registry :=
  (builtin.addLineRule evalRule).addTemplate evalTemplate

theorem scan_triggers_agree_eval :
    withEval.PairsUp evalRule evalTemplate ∧
      ((withEval.scan "let x = 1;\neval(x);").suggestions = [evalTemplate.suggestion]) ∧
      ((withEval.scan "let eval = (1);").suggestions = []) := by
  have hpair : withEval.PairsUp evalRule evalTemplate :=
    { rule_mem := by simp [withEval, addTemplate, addLineRule]
      template_mem := by decide
      eq_of_id := by
        intro other hother hid
        simp only [withEval, addTemplate, addLineRule, builtin, Builtin.lineRules, List.mem_append,
          List.mem_cons, List.not_mem_nil, or_false] at hother
        rcases hother with (rfl | rfl | rfl) | rfl
        · exact absurd hid (by decide)
        · exact absurd hid (by decide)
        · exact absurd hid (by decide)
        · rfl
      newline_notMem := by decide
      flags_eq := fun _ _ => rfl }
  have hagree := scan_triggers_agree.2 withEval evalRule evalTemplate hpair
  refine ⟨hpair, ?_, ?_⟩
  · rw [(hagree _).2 Builtin.templates [] rfl]
    decide
  · rw [(hagree _).2 Builtin.templates [] rfl]
    decide

end Registry
end ScriptReview
