import ScriptReview.Registry.Basic

/-!
Registries and the edits that made them.

A registry holds what was there at first or was added since, without what a later edit disables
(`editAll_madeBy`). Whether something can be disabled is found out by comparing sizes, and that is
the same as asking whether the registry has it: the two filters of `erase` never lengthen a list, so
that the sizes agree only if both lists stay as they are.
-/

namespace ScriptReview

theorem RuleId.beq_eq_name_beq (a b : RuleId) : (a == b) = (a.name == b.name) := by
  rw [Bool.eq_iff_iff, beq_iff_eq, beq_iff_eq]
  exact ⟨congrArg name, RuleId.ext⟩

namespace Registry

/-! ## Removing an identifier -/

theorem contains_eq_true_iff {registry : Registry} {id : RuleId} :
    registry.contains id = true ↔
      (∃ rule ∈ registry.lineRules, rule.id = id) ∨
        ∃ template ∈ registry.templates, template.name = id.name := by
  simp [contains]

theorem contains_erase (registry : Registry) (id : RuleId) :
    (registry.erase id).contains id = false := by
  simp [contains, erase]

theorem erase_of_not_contains {registry : Registry} {id : RuleId}
    (h : registry.contains id = false) : registry.erase id = registry := by
  obtain ⟨hrules, htemplates⟩ := Bool.or_eq_false_iff.mp h
  rw [List.any_eq_false] at hrules htemplates
  have hlineRules : registry.lineRules.filter (·.id != id) = registry.lineRules :=
    List.filter_eq_self.mpr fun rule hrule => by simpa using hrules rule hrule
  have hkept : registry.templates.filter (·.name != id.name) = registry.templates :=
    List.filter_eq_self.mpr fun template htemplate => by simpa using htemplates template htemplate
  rw [erase, hlineRules, hkept]

theorem size_erase_lt {registry : Registry} {id : RuleId} (h : registry.contains id = true) :
    (registry.erase id).size < registry.size := by
  have hrules := List.length_filter_le (·.id != id) registry.lineRules
  have htemplates := List.length_filter_le (·.name != id.name) registry.templates
  rcases contains_eq_true_iff.mp h with ⟨rule, hrule, hid⟩ | ⟨template, htemplate, hname⟩
  · have hfewer : (registry.lineRules.filter (·.id != id)).length < registry.lineRules.length :=
      List.length_filter_lt_length_iff_exists.mpr ⟨rule, hrule, by simp [hid]⟩
    exact Nat.add_lt_add_of_lt_of_le hfewer htemplates
  · have hfewer : (registry.templates.filter (·.name != id.name)).length <
        registry.templates.length :=
      List.length_filter_lt_length_iff_exists.mpr ⟨template, htemplate, by simp [hname]⟩
    exact Nat.add_lt_add_of_le_of_lt hrules hfewer

theorem disable_of_contains {registry : Registry} {id : RuleId}
    (h : registry.contains id = true) : registry.disable id = .ok (registry.erase id) := by
  rw [disable, if_neg (Nat.ne_of_lt (size_erase_lt h))]

theorem disable_of_not_contains {registry : Registry} {id : RuleId}
    (h : registry.contains id = false) : registry.disable id = .error ⟨id.name⟩ := by
  rw [disable, erase_of_not_contains h, if_pos rfl]

theorem edit_disable_of_contains {registry : Registry} {id : RuleId}
    (h : registry.contains id = true) :
    registry.edit (.disable id) = (registry.erase id, .ok ()) := by
  rw [edit, disable_of_contains h]

theorem edit_disable_of_not_contains {registry : Registry} {id : RuleId}
    (h : registry.contains id = false) :
    registry.edit (.disable id) = (registry, .error ⟨id.name⟩) := by
  rw [edit, disable_of_not_contains h]

/-- The filters of `erase` give the registry after the edit whether or not it succeeds. -/
theorem edit_disable_fst (registry : Registry) (id : RuleId) :
    (registry.edit (.disable id)).1 = registry.erase id := by
  cases h : registry.contains id with
  | true => rw [edit_disable_of_contains h]
  | false => rw [edit_disable_of_not_contains h, erase_of_not_contains h]

/-! ## Looking ahead

What becomes of an addition is decided by the edits after it. -/

namespace Edit

def addedRule? : Edit → Option LineRule
  | .addLineRule rule => some rule
  | _ => none

def addedTemplate? : Edit → Option Template
  | .addTemplate template => some template
  | _ => none

/-- Is the edit to remove whatever has the name? -/
def disables (name : String) : Edit → Bool
  | .disable id => id.name == name
  | _ => false

end Edit

section Survivors

variable {α : Type} (name : α → String) (added? : Edit → Option α)

/-- The items that none of the edits disables. -/
def undisabled (edits : List Edit) (items : List α) : List α :=
  items.filter fun item => !edits.any (·.disables (name item))

/-- What the edits add, one after the other, and no later one of them disables. -/
def keptAdditions : List Edit → List α
  | [] => []
  | change :: later => undisabled name later (added? change).toList ++ keptAdditions later

/-- What is left of the items after the edits, and then what is left of their additions. -/
def survivors (items : List α) (edits : List Edit) : List α :=
  undisabled name edits items ++ keptAdditions name added? edits

variable {name added?}

theorem survivors_nil (items : List α) : survivors name added? items [] = items := by
  simp [survivors, undisabled, keptAdditions]

/-- The first of several edits can be carried out on the items before the others are looked at. -/
theorem survivors_cons (items : List α) (change : Edit) (later : List Edit) :
    survivors name added? items (change :: later) =
      survivors name added?
        (items.filter (fun item => !change.disables (name item)) ++ (added? change).toList)
        later := by
  rw [survivors, survivors, keptAdditions, ← List.append_assoc]
  refine congrArg (· ++ keptAdditions name added? later) ?_
  simp only [undisabled, List.filter_append, List.filter_filter, List.any_cons, Bool.not_or,
    Bool.and_comm]

/-- A part of the registry that each edit filters and lengthens holds the survivors of a run. -/
theorem view_editAll {view : Registry → List α}
    (hedit : ∀ registry change, view (registry.edit change).1 =
      (view registry).filter (fun item => !change.disables (name item)) ++
        (added? change).toList)
    (start : Registry) (edits : List Edit) :
    view (start.editAll edits) = survivors name added? (view start) edits := by
  induction edits generalizing start with
  | nil => rw [survivors_nil]; rfl
  | cons change later ih =>
    have hcons : start.editAll (change :: later) = (start.edit change).1.editAll later := rfl
    rw [hcons, ih, hedit, survivors_cons]

end Survivors

theorem lineRules_edit (registry : Registry) (change : Edit) :
    (registry.edit change).1.lineRules =
      registry.lineRules.filter (fun rule => !change.disables rule.id.name) ++
        change.addedRule?.toList := by
  cases change with
  | addLineRule rule =>
    exact congrArg (· ++ [rule]) (List.filter_eq_self.mpr fun _ _ => rfl).symm
  | addTemplate template =>
    exact ((List.append_nil _).trans (List.filter_eq_self.mpr fun _ _ => rfl)).symm
  | disable id =>
    have hrule : ∀ rule ∈ registry.lineRules,
        (rule.id != id) = !(Edit.disable id).disables rule.id.name := fun rule _ => by
      rw [bne, RuleId.beq_eq_name_beq, Edit.disables, BEq.comm]
    rw [edit_disable_fst, erase, List.filter_congr hrule]
    simp [Edit.addedRule?]

theorem templates_edit (registry : Registry) (change : Edit) :
    (registry.edit change).1.templates =
      registry.templates.filter (fun template => !change.disables template.name) ++
        change.addedTemplate?.toList := by
  cases change with
  | addLineRule rule =>
    exact ((List.append_nil _).trans (List.filter_eq_self.mpr fun _ _ => rfl)).symm
  | addTemplate template =>
    exact congrArg (· ++ [template]) (List.filter_eq_self.mpr fun _ _ => rfl).symm
  | disable id =>
    have htemplate : ∀ template ∈ registry.templates,
        (template.name != id.name) = !(Edit.disable id).disables template.name :=
      fun template _ => by rw [bne, Edit.disables, BEq.comm]
    rw [edit_disable_fst, erase, List.filter_congr htemplate]
    simp [Edit.addedTemplate?]

/-! ## Runs -/

/-- The rules that were there or were added, in this order and as often as that, without those whose
identifier was disabled later. -/
def survivingRules (start : Registry) (edits : List Edit) : List LineRule :=
  survivors (fun rule => rule.id.name) Edit.addedRule? start.lineRules edits

def survivingTemplates (start : Registry) (edits : List Edit) : List Template :=
  survivors Template.name Edit.addedTemplate? start.templates edits

theorem lineRules_editAll (start : Registry) (edits : List Edit) :
    (start.editAll edits).lineRules = survivingRules start edits :=
  view_editAll lineRules_edit start edits

theorem templates_editAll (start : Registry) (edits : List Edit) :
    (start.editAll edits).templates = survivingTemplates start edits :=
  view_editAll templates_edit start edits

/-- The registry holds what survives the edits of the first one, and it answers accordingly. -/
structure MadeBy (start : Registry) (edits : List Edit) (registry : Registry) : Prop where
  lineRules : registry.lineRules = survivingRules start edits
  templates : registry.templates = survivingTemplates start edits
  contains : ∀ id, registry.contains id = true ↔
    (∃ rule ∈ survivingRules start edits, rule.id = id) ∨
      ∃ template ∈ survivingTemplates start edits, template.name = id.name
  size : registry.size =
    (survivingRules start edits).length + (survivingTemplates start edits).length
  disable_ok : ∀ id, (registry.edit (.disable id)).2 = .ok () ↔ registry.contains id = true
  /-- What is disabled is gone, and the rest stays in its order. -/
  disabled : ∀ id, (registry.edit (.disable id)).1.contains id = false ∧
    (registry.edit (.disable id)).1.lineRules = registry.lineRules.filter (·.id != id) ∧
    (registry.edit (.disable id)).1.templates = registry.templates.filter (·.name != id.name)
  /-- A failure names the identifier. Its filters have run by then and have changed nothing. -/
  not_disabled : ∀ id unknown, (registry.edit (.disable id)).2 = .error unknown →
    unknown.name = id.name ∧ (registry.edit (.disable id)).1 = registry ∧
      registry.erase id = registry

theorem editAll_madeBy (start : Registry) (edits : List Edit) :
    MadeBy start edits (start.editAll edits) where
  lineRules := lineRules_editAll start edits
  templates := templates_editAll start edits
  contains id := by
    rw [contains_eq_true_iff, lineRules_editAll, templates_editAll]
  size := by
    rw [size, lineRules_editAll, templates_editAll]
  disable_ok id := by
    cases h : (start.editAll edits).contains id with
    | true => simp [edit_disable_of_contains h]
    | false => simp [edit_disable_of_not_contains h]
  disabled id := by
    rw [edit_disable_fst]
    exact ⟨contains_erase (start.editAll edits) id, rfl, rfl⟩
  not_disabled id unknown hunknown := by
    cases h : (start.editAll edits).contains id with
    | true =>
      rw [edit_disable_of_contains h] at hunknown
      cases hunknown
    | false =>
      rw [edit_disable_of_not_contains h] at hunknown
      cases hunknown
      exact ⟨rfl, by rw [edit_disable_of_not_contains h], erase_of_not_contains h⟩

end Registry
end ScriptReview
