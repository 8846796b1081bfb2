import Mathlib.Data.List.Nodup
import Mathlib.Data.Set.List
import ScriptReview.Config.Decode
import ScriptReview.Proofs.Registry.ToggleMap
import ScriptReview.Proofs.Toml.Fields

/-!
Sections of a configuration that are read.

For each section, when it is read and what is read from it, said of the values that it gives for its
fields. It does not matter whether the section is a table, in which these stand under their names,
or an array, in which they stand in their places.
-/

namespace ScriptReview

open Schema Toml

theorem mapM_eq_ok_iff_map {ε α β : Type} {f : α → Except ε β} {write : β → α}
    (h : ∀ a b, f a = .ok b ↔ a = write b) {source : List α} {result : List β} :
    source.mapM f = .ok result ↔ source = result.map write := by
  rw [mapM_eq_ok_iff_forall₂]
  simp only [h]
  rw [← List.forall₂_map_right_iff, List.forall₂_eq_eq_eq]

/-! ## Version and latency -/

namespace Config

theorem versionOfToml_eq_ok_iff {value : Toml} (h : value.Distinct) {version : String} :
    versionOfToml value = .ok version ↔
      value.compound?.bind (Compound.field? "version" 0) = some (.string version) := by
  rw [versionOfToml, asRecord]
  cases hparts : value.compound? with
  | none => simp
  | some parts =>
    rw [Option.bind_some]
    cases parts with
    | entries entries =>
      have hkeys := h.keys_of_compound? hparts
      dsimp only
      rw [bind_eq_ok_iff, Compound.field?]
      simp only [required_eq_ok_iff, exists_eq_right]
      refine (foldlM_eq_ok_iff_elim_lookup "version"
        (fun value => do return some (← value.asString)) hkeys).trans ?_
      cases entries.lookup "version" with
      | none => exact ⟨nofun, nofun⟩
      | some value =>
        rw [Option.elim_some, Option.some.injEq, ← asString_eq_ok_iff]
        cases value.asString with
        | error cause => exact ⟨nofun, nofun⟩
        | ok text =>
          show Except.ok (some text) = .ok (some version) ↔ _
          rw [Except.ok.injEq, Option.some.injEq, Except.ok.injEq]
    | items items =>
      rw [Compound.field?]
      cases items with
      | nil => exact ⟨nofun, nofun⟩
      | cons first items =>
        rw [List.getElem?_cons_zero, Option.some.injEq]
        exact asString_eq_ok_iff

theorem latencyOfToml_eq_ok_iff {value : Toml} (h : value.Distinct) {latency : Nat} :
    latencyOfToml value = .ok latency ↔
      ∃ parts, value.compound? = some parts ∧
        (parts.field? "simulated_latency_ms" 0).elim (.ok 0) asNat = .ok latency := by
  rw [latencyOfToml, asRecord]
  cases hparts : value.compound? with
  | none => simp
  | some parts =>
    simp only [Option.some.injEq, exists_eq_left']
    cases parts with
    | entries entries =>
      exact foldlM_eq_ok_iff_elim_lookup _ _ (h.keys_of_compound? hparts)
    | items items =>
      dsimp only
      rw [item_eq_elim, Compound.field?]

end Config

/-! ## Switches -/

namespace Toggles

/-- A switch as it stands in the section. -/
def entryOf (switch : RuleId × Bool) : String × Toml := (switch.1.name, .boolean switch.2)

theorem entryOf_injective : Function.Injective entryOf := by
  intro a b h
  obtain ⟨hname, hvalue⟩ := Prod.mk.inj h
  exact Prod.ext (RuleId.ext hname) (Toml.boolean.inj hvalue)

theorem ofToml_table_eq_ok_iff {entries : List (String × Toml)} {toggles : Toggles} :
    Toggles.ofToml (.table entries) = .ok toggles ↔
      ∃ switches, entries = switches.map entryOf ∧ ofList switches = toggles := by
  rw [Toggles.ofToml, asRecord, compound?, bind_eq_ok_iff]
  refine exists_congr fun switches => and_congr (mapM_eq_ok_iff_map ?_) ?_
  case refine_2 => exact ⟨Except.ok.inj, congrArg Except.ok⟩
  rintro ⟨name, value⟩ ⟨id, enabled⟩
  rw [entryOf, Prod.mk.injEq]
  dsimp only
  cases hid : RuleId.ofString? name with
  | none =>
    refine ⟨nofun, fun hname => ?_⟩
    rw [hname.1, RuleId.ofString?_name] at hid
    cases hid
  | some found =>
    have hname := RuleId.name_of_ofString? hid
    have hsame : found = id ↔ name = id.name :=
      ⟨fun h => by rw [← hname, h], fun h => RuleId.ext (hname.trans h)⟩
    rw [← hsame, ← asBool_eq_ok_iff]
    cases value.asBool with
    | error cause => exact ⟨nofun, nofun⟩
    | ok read =>
      show Except.ok (found, read) = .ok (id, enabled) ↔ _
      rw [Except.ok.injEq, Prod.mk.injEq, Except.ok.injEq]

/-- A table holds switches just if its keys are rule identifiers and its values boolean. -/
theorem exists_eq_map_entryOf_iff {entries : List (String × Toml)} :
    (∃ switches : List (RuleId × Bool), entries = switches.map entryOf) ↔
      ∀ entry ∈ entries, isRuleId entry.1 = true ∧ ∃ enabled, entry.2 = .boolean enabled := by
  constructor
  · rintro ⟨switches, rfl⟩
    exact List.forall_mem_map.mpr fun switch _ => ⟨switch.1.isRuleId_name, switch.2, rfl⟩
  · intro h
    have hrange : entries ∈ Set.range (List.map entryOf) := by
      rw [Set.range_list_map]
      rintro ⟨name, value⟩ hentry
      obtain ⟨hname, enabled, hvalue⟩ := h (name, value) hentry
      exact ⟨(⟨name, hname⟩, enabled), Prod.ext rfl hvalue.symm⟩
    obtain ⟨switches, hswitches⟩ := hrange
    exact ⟨switches, hswitches.symm⟩

theorem get?_ofList_iff_entryOf_mem {switches : List (RuleId × Bool)}
    (hkeys : ((switches.map entryOf).map Prod.fst).Nodup) (id : RuleId) (enabled : Bool) :
    (ofList switches).get? id = some enabled ↔
      (id.name, .boolean enabled) ∈ switches.map entryOf := by
  have hids : (switches.map Prod.fst).Nodup := by
    refine List.Nodup.of_map RuleId.name ?_
    rw [List.map_map] at hkeys ⊢
    exact hkeys
  rw [get?_ofList_eq_some_iff hids]
  exact (List.mem_map_of_injective entryOf_injective).symm

end Toggles

/-! ## Output -/

namespace OutputConfig

variable {output next : OutputConfig} {entries : List (String × Toml)}

theorem eq_iff : output = next ↔
    output.format = next.format ∧ output.color = next.color ∧ output.view = next.view := by
  cases output
  cases next
  exact OutputConfig.mk.injEq .. ▸ Iff.rfl

/-- An entry is taken over into the field that it names, and the other fields stay as they are. -/
theorem set_eq_ok_iff {key : String} {value : Toml} :
    set output key value = .ok next ↔
      (if key = "format" then OutputFormat.ofToml value else .ok output.format) = .ok next.format ∧
      (if key = "color" then ColorChoice.ofToml value else .ok output.color) = .ok next.color ∧
      (if key = "view" then View.ofToml value else .ok output.view) = .ok next.view := by
  unfold set
  split
  · cases OutputFormat.ofToml value with
    | error cause => simp [bind, Except.bind]
    | ok format => simp [bind, Except.bind, pure, Except.pure, eq_iff]
  · cases ColorChoice.ofToml value with
    | error cause => simp [bind, Except.bind]
    | ok color => simp [bind, Except.bind, pure, Except.pure, eq_iff]
  · cases View.ofToml value with
    | error cause => simp [bind, Except.bind]
    | ok view => simp [bind, Except.bind, pure, Except.pure, eq_iff]
  · rw [if_neg ‹_›, if_neg ‹_›, if_neg ‹_›]
    simp only [Except.ok.injEq, eq_iff]

theorem foldlM_set_eq_ok_iff (hkeys : (entries.map Prod.fst).Nodup) :
    entries.foldlM (fun output (key, value) => output.set key value) output = .ok next ↔
      (entries.lookup "format").elim (.ok output.format) OutputFormat.ofToml = .ok next.format ∧
      (entries.lookup "color").elim (.ok output.color) ColorChoice.ofToml = .ok next.color ∧
      (entries.lookup "view").elim (.ok output.view) View.ofToml = .ok next.view := by
  induction entries generalizing output with
  | nil =>
    simp only [List.foldlM_nil, List.lookup_nil, Option.elim_none, Except.ok.injEq, ← eq_iff]
    exact ⟨Except.ok.inj, congrArg Except.ok⟩
  | cons entry entries ih =>
    obtain ⟨key, value⟩ := entry
    obtain ⟨hnew, hlater⟩ := List.nodup_cons.mp hkeys
    rw [List.foldlM_cons, bind_eq_ok_iff, elim_lookup_cons_eq_ok_iff hnew,
      elim_lookup_cons_eq_ok_iff hnew, elim_lookup_cons_eq_ok_iff hnew]
    simp only [set_eq_ok_iff, ih hlater]
    constructor
    · rintro ⟨between, ⟨hformat, hcolor, hview⟩, hrest⟩
      exact ⟨⟨_, hformat, hrest.1⟩, ⟨_, hcolor, hrest.2.1⟩, ⟨_, hview, hrest.2.2⟩⟩
    · rintro ⟨⟨format, hformat, hrestFormat⟩, ⟨color, hcolor, hrestColor⟩, view, hview, hrestView⟩
      exact ⟨⟨format, color, view⟩, ⟨hformat, hcolor, hview⟩, hrestFormat, hrestColor, hrestView⟩

theorem ofToml_eq_ok_iff {value : Toml} (h : value.Distinct) :
    OutputConfig.ofToml value = .ok output ↔
      ∃ parts, value.compound? = some parts ∧
        (parts.field? "format" 0).elim (.ok .human) OutputFormat.ofToml = .ok output.format ∧
        (parts.field? "color" 1).elim (.ok .auto) ColorChoice.ofToml = .ok output.color ∧
        (parts.field? "view" 2).elim (.ok .all) View.ofToml = .ok output.view := by
  rw [OutputConfig.ofToml, asRecord]
  cases hparts : value.compound? with
  | none => simp
  | some parts =>
    simp only [Option.some.injEq, exists_eq_left']
    cases parts with
    | entries entries => exact foldlM_set_eq_ok_iff (h.keys_of_compound? hparts)
    | items items =>
      dsimp only
      simp only [bind_eq_ok_iff, item_eq_elim, Compound.field?]
      constructor
      · rintro ⟨format, hformat, color, hcolor, view, hview, hresult⟩
        cases hresult
        exact ⟨hformat, hcolor, hview⟩
      · rintro ⟨hformat, hcolor, hview⟩
        exact ⟨_, hformat, _, hcolor, _, hview, rfl⟩

end OutputConfig
end ScriptReview
