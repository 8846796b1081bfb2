import ScriptReview.Proofs.Entries
import ScriptReview.Registry.Toggles

/-!
Switches as a finite map.

Switches are kept in order, so that those with the same settings are the same (`ext_get?`). A list
of settings makes up the same switches in whatever order it is written (`ofList_eq_of_mem_iff`).
-/

namespace ScriptReview
namespace Toggles

/-- The setting of the rule with the name, if the name has the form of an identifier. -/
def named? (toggles : Toggles) (name : String) : Option Bool :=
  (RuleId.ofString? name).bind toggles.get?

theorem nodup_keys (toggles : Toggles) : (toggles.entries.map Prod.fst).Nodup :=
  List.pairwise_map.mpr (toggles.ordered.imp fun before same => by
    rw [same] at before
    exact String.lt_irrefl _ before)

theorem get?_eq_some_iff {toggles : Toggles} {id : RuleId} {enabled : Bool} :
    toggles.get? id = some enabled ↔ (id, enabled) ∈ toggles.entries :=
  lookup_eq_some_iff_mem toggles.nodup_keys

theorem nodup_entries (toggles : Toggles) : toggles.entries.Nodup :=
  List.Pairwise.of_map Prod.fst (fun _ _ => mt (congrArg Prod.fst)) toggles.nodup_keys

theorem ext_get? {a b : Toggles} (h : ∀ id, a.get? id = b.get? id) : a = b := by
  have hmem : ∀ entry, entry ∈ a.entries ↔ entry ∈ b.entries := by
    rintro ⟨id, enabled⟩
    rw [← get?_eq_some_iff, ← get?_eq_some_iff, h]
  have hperm : a.entries.Perm b.entries :=
    (List.perm_ext_iff_of_nodup a.nodup_entries b.nodup_entries).mpr hmem
  -- Two lists in strict order that have the same members are one list.
  refine ext (hperm.eq_of_pairwise (fun first second _ _ hlt hgt => ?_) a.ordered b.ordered)
  exact absurd hgt (String.lt_asymm hlt)

theorem lookup_insertOrdered (id : RuleId) (enabled : Bool) (entries : List (RuleId × Bool))
    (other : RuleId) :
    (insertOrdered id enabled entries).lookup other =
      if other = id then some enabled else entries.lookup other := by
  induction entries with
  | nil => rw [insertOrdered, lookup_cons_eq_ite]
  | cons first entries ih =>
    obtain ⟨firstId, firstEnabled⟩ := first
    rw [insertOrdered, lookup_cons_eq_ite (firstId, firstEnabled)]
    split
    · rw [lookup_cons_eq_ite, lookup_cons_eq_ite]
    split
    next hfirst =>
      subst hfirst
      rw [lookup_cons_eq_ite]
      by_cases hother : other = id
      · rw [if_pos hother, if_pos hother]
      · rw [if_neg hother, if_neg hother, if_neg hother]
    next hfirst =>
      rw [lookup_cons_eq_ite, ih]
      by_cases hother : other = id
      · subst hother
        rw [if_neg hfirst, if_pos rfl, if_pos rfl]
      · rw [if_neg hother, if_neg hother]

theorem get?_set (toggles : Toggles) (id : RuleId) (enabled : Bool) (other : RuleId) :
    (toggles.set id enabled).get? other =
      if other = id then some enabled else toggles.get? other :=
  lookup_insertOrdered id enabled toggles.entries other

theorem get?_foldl_set {switches : List (RuleId × Bool)} (h : (switches.map Prod.fst).Nodup)
    (start : Toggles) (id : RuleId) :
    (switches.foldl (fun toggles (id, enabled) => toggles.set id enabled) start).get? id =
      (switches.lookup id).or (start.get? id) := by
  induction switches generalizing start with
  | nil => rfl
  | cons first switches ih =>
    obtain ⟨firstId, enabled⟩ := first
    rw [List.map_cons, List.nodup_cons] at h
    rw [List.foldl_cons, ih h.2, get?_set, lookup_cons_eq_ite]
    by_cases hid : id = firstId
    · subst hid
      rw [lookup_eq_none_iff_notMem.mpr h.1, if_pos rfl, if_pos rfl]
      rfl
    · rw [if_neg hid, if_neg hid]

theorem get?_ofList {switches : List (RuleId × Bool)} (h : (switches.map Prod.fst).Nodup)
    (id : RuleId) : (ofList switches).get? id = switches.lookup id := by
  rw [ofList, get?_foldl_set h]
  exact Option.or_none

theorem get?_ofList_eq_some_iff {switches : List (RuleId × Bool)}
    (h : (switches.map Prod.fst).Nodup) {id : RuleId} {enabled : Bool} :
    (ofList switches).get? id = some enabled ↔ (id, enabled) ∈ switches := by
  rw [get?_ofList h, lookup_eq_some_iff_mem h]

theorem ofList_eq_of_mem_iff {switches : List (RuleId × Bool)} {toggles : Toggles}
    (h : (switches.map Prod.fst).Nodup)
    (hmem : ∀ id enabled, (id, enabled) ∈ switches ↔ toggles.get? id = some enabled) :
    ofList switches = toggles := by
  refine ext_get? fun id => Option.ext fun enabled => ?_
  rw [get?_ofList_eq_some_iff h, hmem]

end Toggles
end ScriptReview
