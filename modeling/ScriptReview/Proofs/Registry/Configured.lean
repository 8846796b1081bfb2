import ScriptReview.Proofs.Registry.Toggles
import ScriptReview.Proofs.Text.ByteOrder

/-!
Registries that a configuration sets up.

A configuration may only name rules and templates that are built in, whether it switches them on or
off. What it switches off is left out, and what is left keeps its order; a name that is not built in
is reported, and of several such names the first in the order of bytes (`ofToggles_selects`).
-/

namespace ScriptReview

/-- The identifiers of the built-in rules and templates. -/
def Builtin.names : List String :=
  ["var-usage", "loose-equality", "missing-semicolon", "array-methods", "modern-declarations"]

theorem Toggles.named?_eq_some_false_iff {toggles : Toggles} {name : String} :
    toggles.named? name = some false ↔ switchesOff toggles.entries name = true := by
  rw [switchesOff, List.any_eq_true, named?, Option.bind_eq_some_iff]
  constructor
  · rintro ⟨id, hid, hoff⟩
    refine ⟨(id, false), get?_eq_some_iff.mp hoff, ?_⟩
    simp [RuleId.name_of_ofString? hid]
  · rintro ⟨⟨id, enabled⟩, hmem, hname⟩
    simp only [Bool.and_eq_true, beq_iff_eq, Bool.not_eq_true'] at hname
    obtain ⟨rfl, rfl⟩ := hname
    exact ⟨id, id.ofString?_name, get?_eq_some_iff.mpr hmem⟩

namespace Registry

theorem contains_builtin_iff {id : RuleId} :
    builtin.contains id = true ↔ id.name ∈ Builtin.names := by
  have hnames : Builtin.names =
      builtin.lineRules.map (·.id.name) ++ builtin.templates.map (·.name) := by decide
  rw [hnames, contains_eq_true_iff, List.mem_append, List.mem_map, List.mem_map]
  refine or_congr (exists_congr fun rule => and_congr_right fun _ => ?_) Iff.rfl
  exact ⟨congrArg RuleId.name, RuleId.ext⟩

theorem contains_builtin_eq_false_iff {id : RuleId} :
    builtin.contains id = false ↔ id.name ∉ Builtin.names := by
  rw [← contains_builtin_iff, Bool.not_eq_true]

theorem switched_eq_filter (registry : Registry) (toggles : Toggles) :
    registry.switched toggles.entries =
      { lineRules := registry.lineRules.filter fun rule =>
          toggles.named? rule.id.name != some false
        templates := registry.templates.filter fun template =>
          toggles.named? template.name != some false } := by
  have hoff : ∀ name, (toggles.named? name != some false) =
      !Toggles.switchesOff toggles.entries name := fun name => by
    rw [bne, Bool.not_inj_iff, Bool.eq_iff_iff, beq_iff_eq]
    exact Toggles.named?_eq_some_false_iff
  simp only [hoff]
  rfl

/-- The switches are in the order of their names, so that the first unknown one is the smallest. -/
theorem first_unknown {toggles : Toggles} {first : RuleId × Bool}
    (h : toggles.entries.find? (fun toggle => !builtin.contains toggle.1) = some first)
    {other : RuleId × Bool} (hother : other ∈ toggles.entries)
    (hunknown : builtin.contains other.1 = false) :
    other = first ∨ first.1.name < other.1.name := by
  obtain ⟨-, front, back, hentries, hfront⟩ := List.find?_eq_some_iff_append.mp h
  have hordered := toggles.ordered
  rw [hentries] at hordered hother
  rcases List.mem_append.mp hother with hmem | hmem
  · have hknown := hfront other hmem
    simp [hunknown] at hknown
  · rcases List.mem_cons.mp hmem with hfirst | hlater
    · exact .inl hfirst
    · exact .inr ((List.pairwise_cons.mp (List.pairwise_append.mp hordered).2.1).1 other hlater)

/-- A registry is set up just if all names are built in. It is then the built-in one without what is
switched off, and otherwise the smallest unknown name is at fault. However the settings are written
one after the other, the outcome is the same. -/
theorem ofToggles_selects (toggles : Toggles) :
    ((∃ registry, ofToggles toggles = .ok registry) ↔
      ∀ toggle ∈ toggles.entries, toggle.1.name ∈ Builtin.names) ∧
    (∀ registry, ofToggles toggles = .ok registry →
      registry.lineRules =
          Builtin.lineRules.filter (fun rule => toggles.named? rule.id.name != some false) ∧
        registry.templates =
          Builtin.templates.filter fun template => toggles.named? template.name != some false) ∧
    (∀ unknown, ofToggles toggles = .error unknown →
      (∃ id, id.name = unknown.name ∧ (toggles.get? id).isSome = true) ∧
        unknown.name ∉ Builtin.names ∧
        ∀ toggle ∈ toggles.entries, toggle.1.name ∉ Builtin.names →
          toggle.1.name = unknown.name ∨
            Text.bytes unknown.name < Text.bytes toggle.1.name) ∧
    ∀ switches : List (RuleId × Bool), (switches.map Prod.fst).Nodup →
      (∀ id enabled, (id, enabled) ∈ switches ↔ toggles.get? id = some enabled) →
        ofToggles (Toggles.ofList switches) = ofToggles toggles := by
  refine ⟨⟨?_, fun h => ?_⟩, fun registry h => ?_, fun unknown h => ?_,
    fun switches hkeys hmem => ?_⟩
  · rintro ⟨registry, h⟩ toggle hmem
    refine contains_builtin_iff.mp (Bool.eq_true_of_not_eq_false fun hunknown => ?_)
    obtain ⟨unknown, herror⟩ := exists_ofToggles_eq_error ⟨toggle, hmem, hunknown⟩
    rw [herror] at h
    cases h
  · exact ⟨_, ofToggles_of_contains fun toggle hmem => contains_builtin_iff.mpr (h toggle hmem)⟩
  · rw [eq_switched_of_ofToggles h, switched_eq_filter]
    exact ⟨rfl, rfl⟩
  · rw [ofToggles_eq] at h
    split at h
    next first hfirst =>
      cases h
      have hunknown : builtin.contains first.1 = false := by
        simpa using List.find?_some hfirst
      have hget := Toggles.get?_eq_some_iff.mpr (List.mem_of_find?_eq_some hfirst)
      refine ⟨⟨first.1, rfl, by rw [hget]; rfl⟩, contains_builtin_eq_false_iff.mp hunknown, ?_⟩
      intro other hother hname
      rcases first_unknown hfirst hother (contains_builtin_eq_false_iff.mpr hname) with heq | hlt
      · exact .inl (by rw [heq])
      · exact .inr (Text.bytes_lt_bytes_iff.mpr hlt)
    next => cases h
  · rw [Toggles.ofList_eq_of_mem_iff hkeys hmem]

/-- Two switches for built-in rules, and two for names that are not built in. -/
def mixedToggles : Toggles :=
  .ofList [(⟨"no-eval", by decide⟩, true), (Builtin.varUsage.id, false),
    (⟨"array-methods", by decide⟩, true), (⟨"no-alert", by decide⟩, false)]

theorem ofToggles_selects_mixed :
    (∃ registry, ofToggles (.ofList [(⟨"var-usage", by decide⟩, false)]) = .ok registry ∧
      registry.lineRules.map (·.id.name) = ["loose-equality", "missing-semicolon"] ∧
      registry.templates.map (·.name) = ["array-methods", "modern-declarations"]) ∧
    ofToggles mixedToggles = .error ⟨"no-alert"⟩ ∧
    (∀ toggle ∈ mixedToggles.entries, toggle.1.name ∉ Builtin.names →
      toggle.1.name = "no-alert" ∨ Text.bytes "no-alert" < Text.bytes toggle.1.name) ∧
    ofToggles (.ofList mixedToggles.entries.reverse) = ofToggles mixedToggles := by
  obtain ⟨hsucceeds, hselects, -, -⟩ :=
    ofToggles_selects (.ofList [(⟨"var-usage", by decide⟩, false)])
  obtain ⟨-, -, hunknown, hwritten⟩ := ofToggles_selects mixedToggles
  have herror : ofToggles mixedToggles = .error ⟨"no-alert"⟩ := by rfl
  refine ⟨?_, herror, (hunknown _ herror).2.2, ?_⟩
  · obtain ⟨registry, hregistry⟩ := hsucceeds.mpr (by decide)
    obtain ⟨hrules, htemplates⟩ := hselects registry hregistry
    refine ⟨registry, hregistry, ?_, ?_⟩
    · rw [hrules]
      decide
    · rw [htemplates]
      decide
  · refine hwritten _ ?_ fun id enabled => ?_
    · rw [List.map_reverse]
      exact List.pairwise_reverse.mpr (mixedToggles.nodup_keys.imp Ne.symm)
    · rw [List.mem_reverse, Toggles.get?_eq_some_iff]

end Registry
end ScriptReview
