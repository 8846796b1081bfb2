import ScriptReview.Proofs.Config.Documented
import ScriptReview.Proofs.Config.Layout

/-!
Configuration files that are read back.

Whatever its layout, the text of a configuration file is read back as the configuration with its
values and with the defaults for what is left out (`parse_text`). The document that the text writes
is a documented one, and what it gives is picked out of the layout section by section. Every
configuration can be written that way, as long as its latency fits into a number of a document
(`parse_text_ofConfig`).
-/

namespace ScriptReview
namespace Config

open Schema Toml

namespace Layout

variable (layout : Layout)

/-! ## What the document gives -/

theorem lookup_version : layout.entries.lookup "jsreview" =
    some (.table [("version", .string "1")]) := by
  have hnodup : (layout.entries.map Prod.fst).Nodup := by
    rw [entries, List.map_map]
    exact layout.nodup_names
  rw [lookup_eq_some_iff_mem hnodup]
  exact List.mem_map.mpr ⟨.version, layout.version_mem, rfl⟩

theorem lookup_analysis : layout.entries.lookup "analysis" =
    (layout.parts.findSome? Part.latency?).map fun latency =>
      .table (latency.toList.map fun n : Nat => ("simulated_latency_ms", .integer n)) := by
  refine lookup_map_eq_findSome? fun part => ?_
  cases part <;> simp [Part.name, Part.latency?, Part.entries]

theorem lookup_rules : layout.entries.lookup "rules" =
    (layout.parts.findSome? Part.switches?).map fun switches =>
      .table (switches.map Toggles.entryOf) := by
  refine lookup_map_eq_findSome? fun part => ?_
  cases part <;> simp [Part.name, Part.switches?, Part.entries]

theorem lookup_output : layout.entries.lookup "output" =
    (layout.parts.findSome? Part.outputLines?).map fun lines =>
      .table (lines.map fun line => (line.key, .string line.choice)) := by
  refine lookup_map_eq_findSome? fun part => ?_
  cases part <;> simp [Part.name, Part.outputLines?, Part.entries]

theorem given?_latency : given? layout.entries "analysis" "simulated_latency_ms" 0 =
    (layout.parts.findSome? Part.latency?).join.map fun n : Nat => .integer n := by
  rw [given?, lookup_analysis]
  rcases layout.parts.findSome? Part.latency? with _ | _ | n
  · rfl
  · rfl
  · rfl

theorem given?_output {α : Type} {pick : OutputLine → Option α} {nameOf : α → String} {key : String}
    (hpick : ∀ line : OutputLine,
      (if key = line.key then some (.string line.choice) else none) =
        (pick line).map fun found => Toml.string (nameOf found)) (place : Nat) :
    given? layout.entries "output" key place =
      (layout.outputLines.findSome? pick).map fun found => .string (nameOf found) := by
  rw [given?, lookup_output, outputLines]
  rcases layout.parts.findSome? Part.outputLines? with _ | lines
  · rfl
  · exact lookup_map_eq_findSome? hpick

theorem given?_format : given? layout.entries "output" "format" 0 =
    (layout.outputLines.findSome? OutputLine.format?).map fun found => .string found.name :=
  layout.given?_output (fun line => by
    cases line <;> simp [OutputLine.key, OutputLine.format?, OutputLine.choice]) 0

theorem given?_color : given? layout.entries "output" "color" 1 =
    (layout.outputLines.findSome? OutputLine.color?).map fun found => .string found.name :=
  layout.given?_output (fun line => by
    cases line <;> simp [OutputLine.key, OutputLine.color?, OutputLine.choice]) 1

theorem given?_view : given? layout.entries "output" "view" 2 =
    (layout.outputLines.findSome? OutputLine.view?).map fun found => .string found.name :=
  layout.given?_output (fun line => by
    cases line <;> simp [OutputLine.key, OutputLine.view?, OutputLine.choice]) 2

theorem switchEntries_entries :
    switchEntries layout.entries = layout.switches.map Toggles.entryOf := by
  rw [switchEntries, lookup_rules, switches]
  cases layout.parts.findSome? Part.switches? <;> rfl

theorem nodup_switches : (layout.switches.map Prod.fst).Nodup := by
  rw [switches]
  cases hfound : layout.parts.findSome? Part.switches? with
  | none => exact List.nodup_nil
  | some switches =>
    obtain ⟨part, -, hpart⟩ := List.exists_of_findSome?_eq_some hfound
    cases part with
    | rules found hnodup =>
      cases hpart
      exact hnodup
    | version => cases hpart
    | analysis latency hlatency => cases hpart
    | output lines hlines => cases hpart

theorem settled_map {α : Type} {Writes : Toml → α → Prop} {write : α → Toml}
    (default : α) (given : Option α) (h : ∀ found, Writes (write found) found) :
    Settled Writes default (given.map write) (given.getD default) := by
  cases given with
  | none => rfl
  | some found => exact h found

theorem get?_config {id : RuleId} {enabled : Bool} :
    layout.config.rules.get? id = some enabled ↔ (id, enabled) ∈ layout.switches :=
  Toggles.get?_ofList_eq_some_iff layout.nodup_switches

theorem holds_config : Holds layout.entries layout.config where
  latency := by
    rw [given?_latency]
    exact settled_map _ _ fun _ => rfl
  rules id enabled := by
    rw [switchEntries_entries, get?_config]
    exact (List.mem_map_of_injective Toggles.entryOf_injective (a := (id, enabled))).symm
  format := by
    rw [given?_format]
    exact settled_map _ _ fun _ => .inl rfl
  color := by
    rw [given?_color]
    exact settled_map _ _ fun _ => .inl rfl
  view := by
    rw [given?_view]
    exact settled_map _ _ fun _ => .inl rfl

theorem documented : Documented "1" layout.entries where
  version := by
    rw [given?, lookup_version]
    rfl
  analysis value hvalue := by
    rw [lookup_analysis] at hvalue
    obtain ⟨latency, -, rfl⟩ := Option.map_eq_some_iff.mp hvalue
    rfl
  latency := exists_settled_iff.mp ⟨_, layout.holds_config.latency⟩
  rules value hvalue := by
    rw [lookup_rules] at hvalue
    obtain ⟨switches, -, rfl⟩ := Option.map_eq_some_iff.mp hvalue
    exact ⟨_, rfl, Toggles.exists_eq_map_entryOf_iff.mp ⟨switches, rfl⟩⟩
  output value hvalue := by
    rw [lookup_output] at hvalue
    obtain ⟨lines, -, rfl⟩ := Option.map_eq_some_iff.mp hvalue
    rfl
  format := exists_settled_iff.mp ⟨_, layout.holds_config.format⟩
  color := exists_settled_iff.mp ⟨_, layout.holds_config.color⟩
  view := exists_settled_iff.mp ⟨_, layout.holds_config.view⟩

theorem parse_text_eq_ok : parse layout.text = .ok layout.config :=
  (parse_eq_ok_iff layout.parse?_text).mpr ⟨layout.documented, layout.holds_config⟩

/-- A configuration is read back as it is written, whatever is left out and in whatever order the
sections and their lines stand. Just those rules are switched that are written. -/
theorem parse_text (layout : Layout) :
    parse layout.text = .ok layout.config ∧
      ∀ id enabled, layout.config.rules.get? id = some enabled ↔ (id, enabled) ∈ layout.switches :=
  ⟨layout.parse_text_eq_ok, fun _ _ => layout.get?_config⟩

/-! ## Every configuration can be written -/

/-- The layout that leaves nothing out. -/
def ofConfig (config : Config) (h : config.latency ≤ 9223372036854775807) : Layout where
  parts :=
    [.version,
      .analysis (some config.latency) fun n hn => Option.mem_some.mp hn ▸ h,
      .rules config.rules.entries config.rules.nodup_keys,
      .output [.format config.output.format, .color config.output.color, .view config.output.view]
        (by simp [OutputLine.key])]
  nodup_names := by simp [Part.name]
  version_mem := List.mem_cons_self

theorem config_ofConfig (config : Config) (h : config.latency ≤ 9223372036854775807) :
    (ofConfig config h).config = config := by
  have hrules : Toggles.ofList config.rules.entries = config.rules :=
    Toggles.ofList_eq_of_mem_iff config.rules.nodup_keys fun _ _ => Toggles.get?_eq_some_iff.symm
  show Config.mk config.latency (Toggles.ofList config.rules.entries) config.output = config
  rw [hrules]

theorem parse_text_ofConfig (config : Config) (h : config.latency ≤ 9223372036854775807) :
    parse (ofConfig config h).text = .ok config := by
  rw [parse_text_eq_ok, config_ofConfig]

end Layout
end Config
end ScriptReview
