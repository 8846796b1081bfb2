import Mathlib.Data.List.Find
import ScriptReview.Proofs.Registry.Edits
import ScriptReview.Proofs.Registry.ToggleMap

/-!
Registries as switches leave them.

Each switch is looked up in a registry from which earlier switches may have removed something. No
two switches are for the same rule, though, so the answer is the one that the registry at the start
gives (`contains_erase_of_ne`), and a list of switches can be understood without its order.
-/

namespace ScriptReview

/-- Is there a switch with the name, and is it off? -/
def Toggles.switchesOff (entries : List (RuleId × Bool)) (name : String) : Bool :=
  entries.any fun toggle => toggle.1.name == name && !toggle.2

namespace Registry

/-- The registry without the rules and templates that are switched off. -/
def switched (registry : Registry) (entries : List (RuleId × Bool)) : Registry where
  lineRules := registry.lineRules.filter fun rule => !Toggles.switchesOff entries rule.id.name
  templates := registry.templates.filter fun template => !Toggles.switchesOff entries template.name

theorem contains_erase_of_ne (registry : Registry) {id other : RuleId} (h : other ≠ id) :
    (registry.erase id).contains other = registry.contains other := by
  have hname : other.name ≠ id.name := fun same => h (RuleId.ext same)
  rw [Bool.eq_iff_iff, contains_eq_true_iff, contains_eq_true_iff]
  constructor
  · rintro (⟨rule, hrule, rfl⟩ | ⟨template, htemplate, hsame⟩)
    · exact .inl ⟨rule, (List.mem_filter.mp hrule).1, rfl⟩
    · exact .inr ⟨template, (List.mem_filter.mp htemplate).1, hsame⟩
  · rintro (⟨rule, hrule, rfl⟩ | ⟨template, htemplate, hsame⟩)
    · exact .inl ⟨rule, List.mem_filter.mpr ⟨hrule, by simpa using h⟩, rfl⟩
    · exact .inr ⟨template, List.mem_filter.mpr ⟨htemplate, by simpa [hsame] using hname⟩, hsame⟩

theorem lineRules_switched_subset (registry : Registry) (entries : List (RuleId × Bool)) :
    (registry.switched entries).lineRules ⊆ registry.lineRules :=
  fun _ h => (List.mem_filter.mp h).1

theorem templates_switched_subset (registry : Registry) (entries : List (RuleId × Bool)) :
    (registry.switched entries).templates ⊆ registry.templates :=
  fun _ h => (List.mem_filter.mp h).1

theorem switched_nil (registry : Registry) : registry.switched [] = registry := by
  have hlineRules : registry.lineRules.filter (fun rule => !Toggles.switchesOff [] rule.id.name) =
      registry.lineRules := List.filter_eq_self.mpr fun _ _ => rfl
  have htemplates : registry.templates.filter (fun advice => !Toggles.switchesOff [] advice.name) =
      registry.templates := List.filter_eq_self.mpr fun _ _ => rfl
  rw [switched, hlineRules, htemplates]

theorem switched_cons_on (registry : Registry) (id : RuleId) (later : List (RuleId × Bool)) :
    registry.switched ((id, true) :: later) = registry.switched later := by
  simp [switched, Toggles.switchesOff]

theorem switched_cons_off (registry : Registry) (id : RuleId) (later : List (RuleId × Bool)) :
    registry.switched ((id, false) :: later) = (registry.erase id).switched later := by
  have hoff : ∀ name, Toggles.switchesOff ((id, false) :: later) name =
      (id.name == name || Toggles.switchesOff later name) := fun name => by
    simp [Toggles.switchesOff]
  simp only [switched, erase, List.filter_filter, hoff, Bool.not_or, bne, RuleId.beq_eq_name_beq,
    Bool.and_comm, BEq.comm]

/-- One switch, if the registry has what it is for. -/
theorem applyToggle_of_contains {registry : Registry} {id : RuleId} (enabled : Bool)
    (h : registry.contains id = true) :
    registry.applyToggle (id, enabled) =
      .ok (if enabled then registry else registry.erase id) := by
  rw [applyToggle, if_pos h]
  cases enabled with
  | true => rfl
  | false => exact disable_of_contains h

/-- All switches work if the registry has what they are for. Otherwise the first without a rule or
template is at fault. -/
theorem foldlM_applyToggle (registry : Registry) {entries : List (RuleId × Bool)}
    (h : entries.Pairwise (·.1 ≠ ·.1)) :
    entries.foldlM applyToggle registry =
      match entries.find? fun toggle => !registry.contains toggle.1 with
      | some toggle => .error ⟨toggle.1.name⟩
      | none => .ok (registry.switched entries) := by
  induction entries generalizing registry with
  | nil => rw [switched_nil]; rfl
  | cons toggle later ih =>
    obtain ⟨id, enabled⟩ := toggle
    obtain ⟨hothers, hlater⟩ := List.pairwise_cons.mp h
    cases hid : registry.contains id with
    | false => simp [applyToggle, hid]; rfl
    | true =>
      have hfind : ((id, enabled) :: later).find? (fun toggle => !registry.contains toggle.1) =
          later.find? fun toggle => !registry.contains toggle.1 := by
        simp [hid]
      rw [List.foldlM_cons, applyToggle_of_contains enabled hid, hfind]
      cases enabled with
      | true => rw [switched_cons_on]; exact ih registry hlater
      | false =>
        have hsame : later.find? (fun toggle => !(registry.erase id).contains toggle.1) =
            later.find? fun toggle => !registry.contains toggle.1 :=
          List.find?_congr fun toggle hmem => by
            rw [contains_erase_of_ne registry (hothers toggle hmem).symm]
        rw [switched_cons_off, ← hsame]
        exact ih (registry.erase id) hlater

theorem ofToggles_eq (toggles : Toggles) :
    ofToggles toggles =
      match toggles.entries.find? fun toggle => !builtin.contains toggle.1 with
      | some toggle => .error ⟨toggle.1.name⟩
      | none => .ok (builtin.switched toggles.entries) :=
  foldlM_applyToggle builtin (List.pairwise_map.mp toggles.nodup_keys)

theorem ofToggles_of_contains {toggles : Toggles}
    (h : ∀ toggle ∈ toggles.entries, builtin.contains toggle.1 = true) :
    ofToggles toggles = .ok (builtin.switched toggles.entries) := by
  have hnone : toggles.entries.find? (fun toggle => !builtin.contains toggle.1) = none :=
    List.find?_eq_none.mpr fun toggle hmem => by simp [h toggle hmem]
  rw [ofToggles_eq, hnone]

theorem eq_switched_of_ofToggles {toggles : Toggles} {registry : Registry}
    (h : ofToggles toggles = .ok registry) : registry = builtin.switched toggles.entries := by
  rw [ofToggles_eq] at h
  split at h
  · cases h
  · exact (Except.ok.inj h).symm

theorem exists_ofToggles_eq_error {toggles : Toggles}
    (h : ∃ toggle ∈ toggles.entries, builtin.contains toggle.1 = false) :
    ∃ unknown, ofToggles toggles = .error unknown := by
  obtain ⟨toggle, hmem, hunknown⟩ := h
  have hsome : (toggles.entries.find? fun toggle => !builtin.contains toggle.1).isSome = true :=
    List.find?_isSome.mpr ⟨toggle, hmem, by simp [hunknown]⟩
  obtain ⟨first, hfirst⟩ := Option.isSome_iff_exists.mp hsome
  exact ⟨⟨first.1.name⟩, by rw [ofToggles_eq, hfirst]⟩

end Registry
end ScriptReview
