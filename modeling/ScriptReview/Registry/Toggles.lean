import ScriptReview.Rule.Id

/-!
Switches for rules.

A configuration switches rules on and off by their identifiers. The switches are kept in the order
of the identifiers, so that what they do never depends on the order in which they were written.
-/

namespace ScriptReview

/-- A switch for each of some rules, in rising order of the identifiers. -/
structure Toggles where
  entries : List (RuleId × Bool)
  ordered : entries.Pairwise (·.1.name < ·.1.name)

namespace Toggles

@[ext]
theorem ext {a b : Toggles} (h : a.entries = b.entries) : a = b := by
  cases a; cases b; simp_all

instance : DecidableEq Toggles := fun a b =>
  decidable_of_iff (a.entries = b.entries) ⟨ext, congrArg entries⟩

/-- No switches. -/
def empty : Toggles := ⟨[], List.Pairwise.nil⟩

/-- The switch of a rule, if it has one. -/
def get? (toggles : Toggles) (id : RuleId) : Option Bool :=
  toggles.entries.lookup id

/-- Put a switch in its place. A switch that is already there is replaced. -/
def insertOrdered (id : RuleId) (enabled : Bool) :
    List (RuleId × Bool) → List (RuleId × Bool)
  | [] => [(id, enabled)]
  | (other, value) :: rest =>
    if id.name < other.name then (id, enabled) :: (other, value) :: rest
    else if id = other then (id, enabled) :: rest
    else (other, value) :: insertOrdered id enabled rest

theorem mem_insertOrdered {id : RuleId} {enabled : Bool} {entries : List (RuleId × Bool)}
    {entry : RuleId × Bool} (h : entry ∈ insertOrdered id enabled entries) :
    entry = (id, enabled) ∨ entry ∈ entries := by
  induction entries with
  | nil => simpa [insertOrdered] using h
  | cons first rest ih =>
    simp only [insertOrdered] at h
    split at h
    · simpa using h
    · split at h
      · rcases List.mem_cons.1 h with h | h
        · exact .inl h
        · exact .inr (List.mem_cons_of_mem _ h)
      · rcases List.mem_cons.1 h with h | h
        · exact .inr (h ▸ List.mem_cons_self)
        · exact (ih h).imp_right (List.mem_cons_of_mem _)

theorem ordered_insertOrdered (id : RuleId) (enabled : Bool) {entries : List (RuleId × Bool)}
    (h : entries.Pairwise (·.1.name < ·.1.name)) :
    (insertOrdered id enabled entries).Pairwise (·.1.name < ·.1.name) := by
  induction entries with
  | nil => simp [insertOrdered]
  | cons first rest ih =>
    obtain ⟨other, value⟩ := first
    obtain ⟨later, hrest⟩ := List.pairwise_cons.1 h
    simp only [insertOrdered]
    split
    next before =>
      refine List.pairwise_cons.2 ⟨fun entry hmem => ?_, h⟩
      rcases List.mem_cons.1 hmem with rfl | hmem
      · exact before
      · exact String.lt_trans before (later entry hmem)
    next notBefore =>
      split
      next same => exact List.pairwise_cons.2 ⟨same ▸ later, hrest⟩
      next different =>
        refine List.pairwise_cons.2 ⟨fun entry hmem => ?_, ih hrest⟩
        rcases mem_insertOrdered hmem with rfl | hmem
        · refine Decidable.byContradiction fun notAfter => different (RuleId.ext ?_)
          exact String.le_antisymm (String.not_lt.1 notAfter) (String.not_lt.1 notBefore)
        · exact later entry hmem

/-- Set the switch of a rule. -/
def set (toggles : Toggles) (id : RuleId) (enabled : Bool) : Toggles :=
  ⟨insertOrdered id enabled toggles.entries, ordered_insertOrdered id enabled toggles.ordered⟩

/-- The switches of a list, of which the last one for a rule counts. -/
def ofList (switches : List (RuleId × Bool)) : Toggles :=
  switches.foldl (fun toggles (id, enabled) => toggles.set id enabled) empty

end Toggles
end ScriptReview
