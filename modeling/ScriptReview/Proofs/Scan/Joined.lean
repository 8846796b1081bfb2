import ScriptReview.Registry.Scan
import ScriptReview.Proofs.Report.Metrics

/-!
Scanning two texts with a line feed between them.

The report of the joined text can be read off the two reports (`scan_joined`). Issues are found on
single lines, so those of the second text only move down by the lines of the first; numbers stick at
the largest count whether they are clamped before the move or after it.
-/

namespace ScriptReview

/-- The issue, as many lines further down. -/
def Issue.movedDown (issue : Issue) (lines : Count) : Issue :=
  { issue with line := issue.line + lines }

theorem LineRule.check_add (rule : LineRule) (number offset : Count) (line : List Char) :
    rule.check (number + offset) line = (rule.check number line).map (·.movedDown offset) := by
  unfold check
  by_cases hflags : rule.flags line = true
  · rw [if_pos hflags, if_pos hflags]
    rfl
  · rw [if_neg hflags, if_neg hflags]
    rfl

theorem Template.applies_joined {template : Template} (h : '\n' ∉ template.trigger.toList)
    (a b : List Char) :
    template.applies (a ++ '\n' :: b) = (template.applies a || template.applies b) :=
  Text.occurs_joined h a b

namespace Registry

theorem checkLine_add (registry : Registry) (number offset : Count) (line : List Char) :
    registry.checkLine (number + offset) line =
      (registry.checkLine number line).map (·.movedDown offset) := by
  rw [checkLine, checkLine, List.map_filterMap]
  simp only [LineRule.check_add]

theorem checkLines_append (registry : Registry) (before : Nat) (lines later : List (List Char)) :
    registry.checkLines before (lines ++ later) =
      registry.checkLines before lines ++ registry.checkLines (before + lines.length) later := by
  induction lines generalizing before with
  | nil => rfl
  | cons line lines ih =>
    have hbefore : before + 1 + lines.length = before + (line :: lines).length := by
      rw [List.length_cons]
      omega
    rw [List.cons_append, checkLines, checkLines, ih, hbefore, List.append_assoc]

/-- Lines that begin further down have the same issues further down. The offset is clamped before it
is added to numbers that are clamped themselves. -/
theorem checkLines_add (registry : Registry) (before offset : Nat) (lines : List (List Char)) :
    registry.checkLines (before + offset) lines =
      (registry.checkLines before lines).map (·.movedDown (Count.clamp offset)) := by
  induction lines generalizing before with
  | nil => rfl
  | cons line lines ih =>
    have hnumber : Count.clamp (before + offset + 1) =
        Count.clamp (before + 1) + Count.clamp offset := by
      rw [Count.clamp_add_clamp, Nat.add_right_comm]
    rw [checkLines, checkLines, List.map_append, hnumber, checkLine_add,
      Nat.add_right_comm before offset 1, ih]

theorem suggestions_joined {registry : Registry}
    (h : ∀ template ∈ registry.templates, '\n' ∉ template.trigger.toList) (a b : List Char) :
    registry.suggestions (a ++ '\n' :: b) =
      (registry.templates.filter fun template =>
        template.applies a || template.applies b).map (·.suggestion) := by
  rw [suggestions]
  have hfilter := List.filter_congr fun template htemplate =>
    Template.applies_joined (h template htemplate) a b
  rw [hfilter]

/-- The report of a joined text. The lines of the first text are already clamped when they are
added, so that the equation also holds for texts with more lines than can be counted. -/
theorem scan_joined (registry : Registry)
    (h : ∀ template ∈ registry.templates, '\n' ∉ template.trigger.toList) (a b : String) :
    registry.scan (a ++ "\n" ++ b) =
        { issues := (registry.scan a).issues ++
            (registry.scan b).issues.map (·.movedDown (registry.scan a).metrics.lines)
          suggestions := (registry.templates.filter fun template =>
            template.applies a.toList || template.applies b.toList).map (·.suggestion)
          metrics :=
            { lines := (registry.scan a).metrics.lines + (registry.scan b).metrics.lines
              functions := (registry.scan a).metrics.functions + (registry.scan b).metrics.functions
              complexity :=
                (registry.scan a).metrics.complexity + (registry.scan b).metrics.complexity
              maintainability := (registry.scan a).metrics.maintainability } } ∧
      (registry.scan b).metrics.maintainability = (registry.scan a).metrics.maintainability := by
  refine ⟨?_, rfl⟩
  have htext : (a ++ "\n" ++ b).toList = a.toList ++ '\n' :: b.toList := by
    simp
  have hissues : registry.checkLines 0 (Text.lines (a ++ "\n" ++ b).toList) =
      registry.checkLines 0 (Text.lines a.toList) ++
        (registry.checkLines 0 (Text.lines b.toList)).map
          (·.movedDown (Metrics.lineCount a.toList)) := by
    rw [htext, Text.lines_joined, checkLines_append, checkLines_add, Metrics.lineCount]
  rw [scan, scanChars, hissues, htext, suggestions_joined h, Metrics.ofText_joined]
  rfl

theorem scan_joined_builtin :
    (∀ template ∈ builtin.templates, '\n' ∉ template.trigger.toList) ∧
      ((builtin.scan ("var x = 1;" ++ "\n" ++ "if (x == 1)\n  return x")).issues.map fun issue =>
        (issue.ruleId.name, issue.line.toNat)) =
        [("var-usage", 1), ("loose-equality", 2), ("missing-semicolon", 3)] := by
  have htriggers : ∀ template ∈ builtin.templates, '\n' ∉ template.trigger.toList := by decide
  refine ⟨htriggers, ?_⟩
  rw [(scan_joined builtin htriggers "var x = 1;" "if (x == 1)\n  return x").1]
  decide

end Registry
end ScriptReview
