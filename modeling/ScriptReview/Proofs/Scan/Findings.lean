import ScriptReview.Registry.Scan

/-!
What a scan finds.

With one rule to an identifier, the issues of a report are exactly the pairs of a line and a rule
that flags it, each once, in the order of the lines and on a line in the order of the rules
(`scan_findings`). The text must not have more lines than can be counted, since all later lines
share the largest number.
-/

namespace ScriptReview

/-- The line that has the number; the first line has number 1. -/
def Text.lineAt (text : List Char) (number : Nat) : List Char :=
  (lines text).getD (number - 1) []

/-- The issues on one line from the rules with one identifier. -/
def Report.issuesAt (report : Report) (number : Nat) (id : RuleId) : List Issue :=
  report.issues.filter fun issue => issue.line.toNat == number && issue.ruleId == id

theorem LineRule.check_of_flags {rule : LineRule} {line : List Char} (h : rule.flags line = true)
    (number : Count) :
    rule.check number line =
      some
        { ruleId := rule.id
          kind := rule.kind
          line := number
          message := rule.message
          code := String.ofList (Text.trim line)
          severity := rule.severity } := by
  rw [check, if_pos h]

theorem LineRule.check_of_not_flags {rule : LineRule} {line : List Char}
    (h : ¬rule.flags line = true) (number : Count) : rule.check number line = none := by
  rw [check, if_neg h]

/-- An issue tells which rule raised it and on which line. -/
theorem LineRule.of_check {rule : LineRule} {number : Count} {line : List Char} {issue : Issue}
    (h : rule.check number line = some issue) :
    issue.ruleId = rule.id ∧ issue.line = number := by
  by_cases hflags : rule.flags line = true
  · rw [check_of_flags hflags, Option.some.injEq] at h
    subst h
    exact ⟨rfl, rfl⟩
  · rw [check_of_not_flags hflags] at h
    cases h

namespace Registry

/-- How many rules stand before the one with the identifier. -/
def position (registry : Registry) (id : RuleId) : Nat :=
  (registry.lineRules.map (·.id)).idxOf id

/-- The first issue is on an earlier line, or on the same line from an earlier rule. -/
def Precedes (registry : Registry) (first second : Issue) : Prop :=
  first.line.toNat < second.line.toNat ∨
    first.line = second.line ∧ registry.position first.ruleId < registry.position second.ruleId

/-! ## One line -/

theorem mem_checkLine {registry : Registry} {number : Count} {line : List Char} {issue : Issue}
    (h : issue ∈ registry.checkLine number line) :
    issue.line = number ∧ ∃ rule ∈ registry.lineRules, issue.ruleId = rule.id := by
  obtain ⟨rule, hrule, hcheck⟩ := List.mem_filterMap.mp h
  obtain ⟨hid, hline⟩ := LineRule.of_check hcheck
  exact ⟨hline, rule, hrule, hid⟩

/-- No other rule raises issues under the identifier of a rule. -/
theorem filter_ruleId_eq_nil {rules : List LineRule} {id : RuleId}
    (h : id ∉ rules.map (·.id)) (number : Count) (line : List Char) :
    (rules.filterMap (·.check number line)).filter (·.ruleId == id) = [] := by
  refine List.filter_eq_nil_iff.mpr fun issue hissue => ?_
  obtain ⟨rule, hrule, hcheck⟩ := List.mem_filterMap.mp hissue
  rw [(LineRule.of_check hcheck).1, beq_iff_eq]
  rintro rfl
  exact h (List.mem_map_of_mem hrule)

theorem filter_ruleId_filterMap_check {rules : List LineRule} (h : (rules.map (·.id)).Nodup)
    {rule : LineRule} (hrule : rule ∈ rules) (number : Count) (line : List Char) :
    (rules.filterMap (·.check number line)).filter (·.ruleId == rule.id) =
      (rule.check number line).toList := by
  induction rules with
  | nil => cases hrule
  | cons first rules ih =>
    rw [List.map_cons, List.nodup_cons] at h
    have hhead : (first :: rules).filterMap (·.check number line) =
        (first.check number line).toList ++ rules.filterMap (·.check number line) := by
      cases hcheck : first.check number line <;> simp [hcheck]
    rw [hhead, List.filter_append]
    rcases List.mem_cons.mp hrule with rfl | hmem
    · -- The rule is the first one, and its identifier does not appear again.
      rw [filter_ruleId_eq_nil h.1, List.append_nil]
      refine List.filter_eq_self.mpr fun issue hissue => ?_
      rw [(LineRule.of_check (Option.mem_toList.mp hissue)).1, beq_self_eq_true]
    · have hne : first.id ≠ rule.id := fun e => h.1 (e ▸ List.mem_map_of_mem hmem)
      have hfirst : (first.check number line).toList.filter (·.ruleId == rule.id) = [] := by
        refine List.filter_eq_nil_iff.mpr fun issue hissue => ?_
        rw [(LineRule.of_check (Option.mem_toList.mp hissue)).1, beq_iff_eq]
        exact hne
      rw [hfirst, List.nil_append, ih h.2 hmem]

theorem pairwise_idxOf_lt {ids : List RuleId} (h : ids.Nodup) :
    ids.Pairwise fun a b => ids.idxOf a < ids.idxOf b := by
  induction ids with
  | nil => exact List.Pairwise.nil
  | cons id ids ih =>
    rw [List.nodup_cons] at h
    have hshift : ∀ a ∈ ids, (id :: ids).idxOf a = ids.idxOf a + 1 := by
      intro a ha
      have hne : id ≠ a := fun e => h.1 (e ▸ ha)
      rw [List.idxOf_cons, beq_false_of_ne hne, cond_false]
    refine List.pairwise_cons.mpr ⟨fun a ha => ?_, ?_⟩
    · rw [List.idxOf_cons_self, hshift a ha]
      exact Nat.succ_pos _
    · refine (ih h.2).imp_of_mem fun {a b} ha hb hlt => ?_
      rw [hshift a ha, hshift b hb]
      exact Nat.succ_lt_succ hlt

theorem pairwise_checkLine {registry : Registry} (h : (registry.lineRules.map (·.id)).Nodup)
    (number : Count) (line : List Char) :
    (registry.checkLine number line).Pairwise registry.Precedes := by
  have hids : (registry.lineRules.map (·.id)).Pairwise fun a b =>
      registry.position a < registry.position b := pairwise_idxOf_lt h
  refine (List.pairwise_map.mp hids).filterMap _ fun a b hlt first hfirst second hsecond => ?_
  obtain ⟨hida, hlinea⟩ := LineRule.of_check hfirst
  obtain ⟨hidb, hlineb⟩ := LineRule.of_check hsecond
  refine Or.inr ⟨hlinea.trans hlineb.symm, ?_⟩
  rw [hida, hidb]
  exact hlt

/-! ## All lines -/

theorem exists_rule_of_mem_checkLines {registry : Registry} {before : Nat}
    {lines : List (List Char)} {issue : Issue} (h : issue ∈ registry.checkLines before lines) :
    ∃ rule ∈ registry.lineRules, issue.ruleId = rule.id := by
  induction lines generalizing before with
  | nil => cases h
  | cons line lines ih =>
    rcases List.mem_append.mp h with hline | hlater
    · exact (mem_checkLine hline).2
    · exact ih hlater

theorem lt_line_of_mem_checkLines {registry : Registry} {before : Nat} {lines : List (List Char)}
    (hlines : before + lines.length ≤ Count.maximum) {issue : Issue}
    (h : issue ∈ registry.checkLines before lines) : before < issue.line.toNat := by
  induction lines generalizing before with
  | nil => cases h
  | cons line lines ih =>
    rw [List.length_cons] at hlines
    rcases List.mem_append.mp h with hline | hlater
    · rw [(mem_checkLine hline).1, Count.toNat_clamp]
      omega
    · have hlt := ih (by omega) hlater
      omega

/-- A number and an identifier single out the check of one rule on one line. The bound keeps the
numbers of the lines apart. -/
theorem filter_checkLines {registry : Registry} (h : (registry.lineRules.map (·.id)).Nodup)
    {rule : LineRule} (hrule : rule ∈ registry.lineRules) (number : Nat) {before : Nat}
    {lines : List (List Char)} (hlines : before + lines.length ≤ Count.maximum) :
    (registry.checkLines before lines).filter
        (fun issue => issue.line.toNat == number && issue.ruleId == rule.id) =
      if before < number ∧ number ≤ before + lines.length then
        (rule.check (Count.clamp number) (lines.getD (number - before - 1) [])).toList
      else [] := by
  induction lines generalizing before with
  | nil =>
    have hrange : ¬(before < number ∧ number ≤ before + 0) := by omega
    rw [List.length_nil, if_neg hrange]
    rfl
  | cons line lines ih =>
    rw [List.length_cons] at hlines
    have hnumber : ∀ issue ∈ registry.checkLine (Count.clamp (before + 1)) line,
        issue.line.toNat = before + 1 := by
      intro issue hissue
      rw [(mem_checkLine hissue).1, Count.toNat_clamp]
      omega
    rw [checkLines, List.filter_append, ih (by omega), List.length_cons]
    -- If the number is that of this line, no later line has it; else no issue here has it.
    by_cases hhere : number = before + 1
    · subst hhere
      have hfilter : (registry.checkLine (Count.clamp (before + 1)) line).filter
          (fun issue => issue.line.toNat == before + 1 && issue.ruleId == rule.id) =
          (rule.check (Count.clamp (before + 1)) line).toList := by
        rw [← filter_ruleId_filterMap_check h hrule]
        refine List.filter_congr fun issue hissue => ?_
        rw [hnumber issue hissue, beq_self_eq_true, Bool.true_and]
      have hindex : before + 1 - before - 1 = 0 := by omega
      rw [hfilter, if_neg (by omega), if_pos (by omega), List.append_nil, hindex]
      rfl
    · have hfilter : (registry.checkLine (Count.clamp (before + 1)) line).filter
          (fun issue => issue.line.toNat == number && issue.ruleId == rule.id) = [] := by
        refine List.filter_eq_nil_iff.mpr fun issue hissue => ?_
        rw [hnumber issue hissue, beq_false_of_ne (Ne.symm hhere), Bool.false_and]
        exact Bool.false_ne_true
      rw [hfilter, List.nil_append]
      by_cases hlater : before + 1 < number
      · have hindex : number - before - 1 = number - (before + 1) - 1 + 1 := by omega
        have hrange : (before + 1 < number ∧ number ≤ before + 1 + lines.length) ↔
            (before < number ∧ number ≤ before + (lines.length + 1)) := by omega
        rw [hindex, List.getD_cons_succ]
        simp only [hrange]
      · rw [if_neg (by omega), if_neg (by omega)]

theorem pairwise_checkLines {registry : Registry} (h : (registry.lineRules.map (·.id)).Nodup)
    {before : Nat} {lines : List (List Char)} (hlines : before + lines.length ≤ Count.maximum) :
    (registry.checkLines before lines).Pairwise registry.Precedes := by
  induction lines generalizing before with
  | nil => exact List.Pairwise.nil
  | cons line lines ih =>
    rw [List.length_cons] at hlines
    have hlater : before + 1 + lines.length ≤ Count.maximum := by omega
    refine List.pairwise_append.mpr
      ⟨pairwise_checkLine h _ line, ih hlater, fun first hfirst second hsecond => ?_⟩
    have hlt := lt_line_of_mem_checkLines hlater hsecond
    refine Or.inl ?_
    rw [(mem_checkLine hfirst).1, Count.toNat_clamp]
    omega

/-- The issues of a report are those that the rules call for: at each number one issue for each rule
that flags the line with that number, no others, and all of them in order. -/
theorem scan_findings (registry : Registry) (text : String)
    (hrules : (registry.lineRules.map (·.id)).Nodup)
    (hlines : (Text.lines text.toList).length ≤ Count.maximum) :
    (∀ number : Nat, ∀ rule ∈ registry.lineRules,
      (registry.scan text).issuesAt number rule.id =
        if 1 ≤ number ∧ number ≤ (registry.scan text).metrics.lines.toNat ∧
            rule.flags (Text.lineAt text.toList number) = true then
          [{ ruleId := rule.id
             kind := rule.kind
             line := Count.clamp number
             message := rule.message
             code := String.ofList (Text.trim (Text.lineAt text.toList number))
             severity := rule.severity }]
        else []) ∧
      (∀ issue ∈ (registry.scan text).issues,
        ∃ rule ∈ registry.lineRules, issue.ruleId = rule.id) ∧
      (registry.scan text).issues.Pairwise registry.Precedes := by
  have hbound : 0 + (Text.lines text.toList).length ≤ Count.maximum := by omega
  refine ⟨fun number rule hrule => ?_, fun issue hissue => exists_rule_of_mem_checkLines hissue,
    pairwise_checkLines hrules hbound⟩
  have hcount : (registry.scan text).metrics.lines.toNat = (Text.lines text.toList).length :=
    Nat.min_eq_left hlines
  have hissues : (registry.scan text).issuesAt number rule.id =
      if 0 < number ∧ number ≤ 0 + (Text.lines text.toList).length then
        (rule.check (Count.clamp number) (Text.lineAt text.toList number)).toList
      else [] :=
    filter_checkLines hrules hrule number hbound
  rw [hissues, hcount, Nat.zero_add]
  by_cases hflags : rule.flags (Text.lineAt text.toList number) = true
  · rw [LineRule.check_of_flags hflags]
    simp only [hflags, and_true]
    rfl
  · rw [LineRule.check_of_not_flags hflags, Option.toList_none, ite_self,
      if_neg fun hrange => hflags hrange.2.2]

theorem scan_findings_builtin :
    (builtin.lineRules.map (·.id)).Nodup ∧
      (Text.lines "var x = 1;\n  return x ".toList).length ≤ Count.maximum ∧
      (builtin.scan "var x = 1;\n  return x ").issuesAt 2 Builtin.missingSemicolon.id =
        [{ ruleId := Builtin.missingSemicolon.id
           kind := .warning
           line := Count.clamp 2
           message := "Missing semicolon"
           code := "return x"
           severity := .low }] ∧
      (builtin.scan "var x = 1;\n  return x ").issuesAt 3 Builtin.missingSemicolon.id = [] := by
  have hrules : (builtin.lineRules.map (·.id)).Nodup := by decide
  have hlines : (Text.lines "var x = 1;\n  return x ".toList).length ≤ Count.maximum := by decide
  have hmem : Builtin.missingSemicolon ∈ builtin.lineRules := by
    simp [builtin, Builtin.lineRules]
  have hissues := (scan_findings builtin "var x = 1;\n  return x " hrules hlines).1
  refine ⟨hrules, hlines, ?_, ?_⟩
  · rw [hissues 2 Builtin.missingSemicolon hmem]
    decide
  · rw [hissues 3 Builtin.missingSemicolon hmem]
    decide

end Registry
end ScriptReview
