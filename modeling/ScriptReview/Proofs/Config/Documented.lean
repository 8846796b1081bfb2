import ScriptReview.Proofs.Config.Sections
import ScriptReview.Proofs.Toml.Keys

/-!
Configurations as they are documented.

A document is a configuration just if it names the version and every section that it has is of the
form that is documented for it (`Documented`). What is read from it is what it gives, and the
default for everything that it does not give (`Holds`). `parse_documented` says that nothing else is
accepted, and which of the two kinds of refusal everything else meets.

The sections are read by the laws of the module on sections; here they are put together along the
entries of the document, in which no key comes twice.
-/

namespace ScriptReview
namespace Config

open Schema Toml

/-! ## What a document gives -/

/-- What a section of the document gives for a field, if it gives anything. -/
def given? (entries : List (String × Toml)) (part field : String) (place : Nat) : Option Toml :=
  (entries.lookup part).bind fun value => value.compound?.bind (Compound.field? field place)

/-- The entries of the section of switches. -/
def switchEntries (entries : List (String × Toml)) : List (String × Toml) :=
  match entries.lookup "rules" with
  | some (.table switches) => switches
  | _ => []

/-- The document names the version, and its sections have the form that is documented. -/
structure Documented (version : String) (entries : List (String × Toml)) : Prop where
  version : given? entries "jsreview" "version" 0 = some (.string version)
  analysis : ∀ value ∈ entries.lookup "analysis", value.compound?.isSome = true
  latency : ∀ value ∈ given? entries "analysis" "simulated_latency_ms" 0,
    ∃ latency : Nat, value = .integer latency
  rules : ∀ value ∈ entries.lookup "rules", ∃ switches, value = .table switches ∧
    ∀ switch ∈ switches, isRuleId switch.1 = true ∧ ∃ enabled, switch.2 = .boolean enabled
  output : ∀ value ∈ entries.lookup "output", value.compound?.isSome = true
  format : ∀ value ∈ given? entries "output" "format" 0,
    ∃ format : OutputFormat, value.Names format.name
  color : ∀ value ∈ given? entries "output" "color" 1,
    ∃ color : ColorChoice, value.Names color.name
  view : ∀ value ∈ given? entries "output" "view" 2, ∃ view : View, value.Names view.name

/-- A field is what is written for it, or the default where nothing is given. -/
def Settled {α : Type} (Writes : Toml → α → Prop) (default : α) : Option Toml → α → Prop
  | none, field => field = default
  | some value, field => Writes value field

/-- The configuration holds what the document gives, and the defaults for everything else. -/
structure Holds (entries : List (String × Toml)) (config : Config) : Prop where
  latency : Settled (fun value latency => value = .integer (latency : Nat)) 0
    (given? entries "analysis" "simulated_latency_ms" 0) config.latency
  rules : ∀ id enabled, config.rules.get? id = some enabled ↔
    (id.name, .boolean enabled) ∈ switchEntries entries
  format : Settled (fun value format => value.Names format.name) .human
    (given? entries "output" "format" 0) config.output.format
  color : Settled (fun value color => value.Names color.name) .auto
    (given? entries "output" "color" 1) config.output.color
  view : Settled (fun value view => value.Names view.name) .all
    (given? entries "output" "view" 2) config.output.view

/-! ## Fields -/

section Fields

variable {α : Type} {given : Option Toml} {read : Toml → Except Mismatch α}
  {Writes : Toml → α → Prop} {default found : α}

theorem elim_eq_ok_iff_settled
    (hread : ∀ value found, read value = .ok found ↔ Writes value found) :
    given.elim (.ok default) read = .ok found ↔ Settled Writes default given found := by
  cases given with
  | none => exact ⟨fun h => (Except.ok.inj h).symm, fun h => congrArg Except.ok h.symm⟩
  | some value => exact hread value found

theorem exists_settled_iff :
    (∃ found, Settled Writes default given found) ↔
      ∀ value ∈ given, ∃ found, Writes value found := by
  cases given with
  | none => exact ⟨fun _ => nofun, fun _ => ⟨default, rfl⟩⟩
  | some value => exact ⟨fun h _ hvalue => Option.mem_some.mp hvalue ▸ h, fun h => h value rfl⟩

theorem outputFormat_ofToml_eq_ok_iff (value : Toml) (format : OutputFormat) :
    OutputFormat.ofToml value = .ok format ↔ value.Names format.name :=
  asVariant_eq_ok_iff (by decide) (by cases format <;> decide)

theorem colorChoice_ofToml_eq_ok_iff (value : Toml) (color : ColorChoice) :
    ColorChoice.ofToml value = .ok color ↔ value.Names color.name :=
  asVariant_eq_ok_iff (by decide) (by cases color <;> decide)

theorem view_ofToml_eq_ok_iff (value : Toml) (view : View) :
    View.ofToml value = .ok view ↔ value.Names view.name :=
  asVariant_eq_ok_iff (by decide) (by cases view <;> decide)

end Fields

/-! ## Sections of the document -/

section Sections

variable {entries : List (String × Toml)}

theorem version_of_lookup (h : (Toml.table entries).Distinct) {version : String} :
    (entries.lookup "jsreview").elim (.ok none)
        (fun value => do return some (← versionOfToml value)) =
        (.ok (some version) : Except Mismatch (Option String)) ↔
      given? entries "jsreview" "version" 0 = some (.string version) := by
  rw [given?]
  cases hvalue : entries.lookup "jsreview" with
  | none => exact ⟨nofun, nofun⟩
  | some value =>
    rw [Option.elim_some, Option.bind_some, ← versionOfToml_eq_ok_iff (h.of_lookup hvalue)]
    cases versionOfToml value with
    | error cause => exact ⟨nofun, nofun⟩
    | ok found =>
      show Except.ok (some found) = .ok (some version) ↔ _
      rw [Except.ok.injEq, Option.some.injEq, Except.ok.injEq]

theorem latency_of_lookup (h : (Toml.table entries).Distinct) {latency : Nat} :
    (entries.lookup "analysis").elim (.ok 0) latencyOfToml = .ok latency ↔
      (∀ value ∈ entries.lookup "analysis", value.compound?.isSome = true) ∧
        Settled (fun value latency => value = .integer (latency : Nat)) 0
          (given? entries "analysis" "simulated_latency_ms" 0) latency := by
  rw [given?, ← elim_eq_ok_iff_settled fun _ _ => asNat_eq_ok_iff]
  cases hvalue : entries.lookup "analysis" with
  | none => simp
  | some value =>
    rw [Option.elim_some, Option.bind_some, latencyOfToml_eq_ok_iff (h.of_lookup hvalue)]
    simp only [Option.mem_some_iff, forall_eq']
    cases value.compound? <;> simp

theorem output_of_lookup (h : (Toml.table entries).Distinct) {output : OutputConfig} :
    (entries.lookup "output").elim (.ok .default) OutputConfig.ofToml = .ok output ↔
      (∀ value ∈ entries.lookup "output", value.compound?.isSome = true) ∧
        Settled (fun value format => value.Names format.name) .human
          (given? entries "output" "format" 0) output.format ∧
        Settled (fun value color => value.Names color.name) .auto
          (given? entries "output" "color" 1) output.color ∧
        Settled (fun value view => value.Names view.name) .all
          (given? entries "output" "view" 2) output.view := by
  rw [given?, given?, given?, ← elim_eq_ok_iff_settled outputFormat_ofToml_eq_ok_iff,
    ← elim_eq_ok_iff_settled colorChoice_ofToml_eq_ok_iff,
    ← elim_eq_ok_iff_settled view_ofToml_eq_ok_iff]
  cases hvalue : entries.lookup "output" with
  | none => simp [OutputConfig.eq_iff, OutputConfig.default]
  | some value =>
    simp only [Option.elim_some, Option.bind_some, Option.mem_some_iff, forall_eq']
    rw [OutputConfig.ofToml_eq_ok_iff (h.of_lookup hvalue)]
    cases value.compound? <;> simp

theorem rules_of_lookup (h : (Toml.table entries).Distinct) {toggles : Toggles} :
    (entries.lookup "rules").elim (.ok .empty) Toggles.ofToml = .ok toggles ↔
      (∀ value ∈ entries.lookup "rules", ∃ switches, value = .table switches ∧
        ∀ switch ∈ switches, isRuleId switch.1 = true ∧ ∃ enabled, switch.2 = .boolean enabled) ∧
      ∀ id enabled, toggles.get? id = some enabled ↔
        (id.name, .boolean enabled) ∈ switchEntries entries := by
  rw [switchEntries]
  cases hvalue : entries.lookup "rules" with
  | none =>
    have hempty : ∀ id, Toggles.empty.get? id = none := fun _ => rfl
    simp only [Option.elim_none, Except.ok.injEq, List.not_mem_nil, iff_false]
    constructor
    · rintro rfl
      exact ⟨nofun, fun id enabled => by simp [hempty]⟩
    · rintro ⟨-, hget⟩
      refine Toggles.ext_get? fun id => ?_
      rw [hempty, eq_comm, Option.eq_none_iff_forall_ne_some]
      exact hget id
  | some value =>
    simp only [Option.elim_some, Option.mem_some_iff, forall_eq']
    cases value with
    | table switches =>
      have hkeys := (distinct_table_iff.mp (h.of_lookup hvalue)).1
      simp only [Toml.table.injEq, exists_eq_left', ← Toggles.exists_eq_map_entryOf_iff]
      rw [Toggles.ofToml_table_eq_ok_iff]
      constructor
      · rintro ⟨written, rfl, rfl⟩
        exact ⟨⟨written, rfl⟩, Toggles.get?_ofList_iff_entryOf_mem hkeys⟩
      · rintro ⟨⟨written, rfl⟩, hget⟩
        refine ⟨written, rfl, Toggles.ext_get? fun id => Option.ext fun enabled => ?_⟩
        rw [hget, Toggles.get?_ofList_iff_entryOf_mem hkeys]
    | dateTime text =>
      -- It counts as a table, but what stands under its key is not boolean.
      have hrefused : ¬Toggles.ofToml (.dateTime text) = .ok toggles := fun hok => by
        obtain ⟨switches, hswitches, -⟩ := Toggles.ofToml_table_eq_ok_iff.mp
          (show Toggles.ofToml (.table [(dateTimeKey, .string text)]) = .ok toggles from hok)
        obtain ⟨-, enabled, hvalue⟩ :=
          Toggles.exists_eq_map_entryOf_iff.mp ⟨switches, hswitches⟩ _ List.mem_cons_self
        cases hvalue
      simp [hrefused]
    | string | integer | float | boolean | array | series =>
      simp [Toggles.ofToml, asRecord, compound?]

theorem exists_get?_of_rules (h : (Toml.table entries).Distinct)
    (hrules : ∀ value ∈ entries.lookup "rules", ∃ switches, value = .table switches ∧
      ∀ switch ∈ switches, isRuleId switch.1 = true ∧ ∃ enabled, switch.2 = .boolean enabled) :
    ∃ toggles : Toggles, ∀ id enabled, toggles.get? id = some enabled ↔
      (id.name, .boolean enabled) ∈ switchEntries entries := by
  have hread : ∃ toggles,
      (entries.lookup "rules").elim (.ok .empty) Toggles.ofToml = .ok toggles := by
    rw [exists_elim_eq_ok_iff]
    intro value hvalue
    obtain ⟨switches, rfl, hswitches⟩ := hrules value hvalue
    obtain ⟨written, hwritten⟩ := Toggles.exists_eq_map_entryOf_iff.mpr hswitches
    exact ⟨_, Toggles.ofToml_table_eq_ok_iff.mpr ⟨written, hwritten, rfl⟩⟩
  obtain ⟨toggles, htoggles⟩ := hread
  exact ⟨toggles, ((rules_of_lookup h).mp htoggles).2⟩

end Sections

/-! ## The document -/

namespace Draft

variable {draft next : Draft} {entries : List (String × Toml)}

theorem eq_iff : draft = next ↔ draft.version = next.version ∧
    draft.config.latency = next.config.latency ∧ draft.config.rules = next.config.rules ∧
    draft.config.output = next.config.output := by
  obtain ⟨version, latency, rules, output⟩ := draft
  obtain ⟨nextVersion, nextLatency, nextRules, nextOutput⟩ := next
  simp

theorem set_eq_ok_iff {key : String} {value : Toml} :
    set draft key value = .ok next ↔
      (if key = "jsreview" then (do return some (← versionOfToml value)) else .ok draft.version) =
        (.ok next.version : Except Mismatch (Option String)) ∧
      (if key = "analysis" then latencyOfToml value else .ok draft.config.latency) =
        .ok next.config.latency ∧
      (if key = "rules" then Toggles.ofToml value else .ok draft.config.rules) =
        .ok next.config.rules ∧
      (if key = "output" then OutputConfig.ofToml value else .ok draft.config.output) =
        .ok next.config.output := by
  unfold set
  split
  · cases versionOfToml value with
    | error cause => simp [bind, Except.bind]
    | ok version => simp [bind, Except.bind, pure, Except.pure, eq_iff]
  · cases latencyOfToml value with
    | error cause => simp [bind, Except.bind]
    | ok latency => simp [bind, Except.bind, pure, Except.pure, eq_iff]
  · cases Toggles.ofToml value with
    | error cause => simp [bind, Except.bind]
    | ok rules => simp [bind, Except.bind, pure, Except.pure, eq_iff]
  · cases OutputConfig.ofToml value with
    | error cause => simp [bind, Except.bind]
    | ok output => simp [bind, Except.bind, pure, Except.pure, eq_iff]
  · rw [if_neg ‹_›, if_neg ‹_›, if_neg ‹_›, if_neg ‹_›]
    simp only [Except.ok.injEq, eq_iff]

theorem foldlM_set_eq_ok_iff (hkeys : (entries.map Prod.fst).Nodup) :
    entries.foldlM (fun draft (key, value) => draft.set key value) draft = .ok next ↔
      (entries.lookup "jsreview").elim (.ok draft.version)
          (fun value => do return some (← versionOfToml value)) =
        (.ok next.version : Except Mismatch (Option String)) ∧
      (entries.lookup "analysis").elim (.ok draft.config.latency) latencyOfToml =
        .ok next.config.latency ∧
      (entries.lookup "rules").elim (.ok draft.config.rules) Toggles.ofToml =
        .ok next.config.rules ∧
      (entries.lookup "output").elim (.ok draft.config.output) OutputConfig.ofToml =
        .ok next.config.output := by
  induction entries generalizing draft with
  | nil =>
    simp only [List.foldlM_nil, List.lookup_nil, Option.elim_none, Except.ok.injEq, ← eq_iff]
    exact ⟨Except.ok.inj, congrArg Except.ok⟩
  | cons entry entries ih =>
    obtain ⟨key, value⟩ := entry
    obtain ⟨hnew, hlater⟩ := List.nodup_cons.mp hkeys
    rw [List.foldlM_cons, bind_eq_ok_iff, elim_lookup_cons_eq_ok_iff hnew,
      elim_lookup_cons_eq_ok_iff hnew, elim_lookup_cons_eq_ok_iff hnew,
      elim_lookup_cons_eq_ok_iff hnew]
    simp only [set_eq_ok_iff, ih hlater]
    constructor
    · rintro ⟨between, ⟨hversion, hlatency, hrules, houtput⟩, hrest⟩
      exact ⟨⟨_, hversion, hrest.1⟩, ⟨_, hlatency, hrest.2.1⟩, ⟨_, hrules, hrest.2.2.1⟩,
        ⟨_, houtput, hrest.2.2.2⟩⟩
    · rintro ⟨⟨version, hversion, hrest⟩, ⟨latency, hlatency, hrest'⟩, ⟨rules, hrules, hrest''⟩,
        output, houtput, hrest'''⟩
      exact ⟨⟨version, latency, rules, output⟩, ⟨hversion, hlatency, hrules, houtput⟩,
        hrest, hrest', hrest'', hrest'''⟩

end Draft

theorem ofEntries_eq_ok_iff {entries : List (String × Toml)} (h : (Toml.table entries).Distinct)
    {version : String} {config : Config} :
    ofEntries entries = .ok (version, config) ↔
      Documented version entries ∧ Holds entries config := by
  have hkeys := (distinct_table_iff.mp h).1
  have hdraft : ofEntries entries = .ok (version, config) ↔
      entries.foldlM (fun draft (key, value) => draft.set key value) (⟨none, default⟩ : Draft) =
        .ok ⟨some version, config⟩ := by
    rw [ofEntries, bind_eq_ok_iff]
    constructor
    · rintro ⟨draft, hdraft, hrest⟩
      obtain ⟨found, hfound, hresult⟩ := bind_eq_ok_iff.mp hrest
      cases hresult
      rw [hdraft, ← required_eq_ok_iff.mp hfound]
    · intro hdraft
      exact ⟨_, hdraft, rfl⟩
  rw [hdraft, Draft.foldlM_set_eq_ok_iff hkeys]
  dsimp only [default]
  rw [version_of_lookup h, latency_of_lookup h, rules_of_lookup h, output_of_lookup h]
  constructor
  · rintro ⟨hversion, ⟨hanalysis, hlatency⟩, ⟨hrules, hget⟩, houtput, hformat, hcolor, hview⟩
    refine ⟨⟨hversion, hanalysis, ?_, hrules, houtput, ?_, ?_, ?_⟩,
      hlatency, hget, hformat, hcolor, hview⟩
    · exact exists_settled_iff.mp ⟨_, hlatency⟩
    · exact exists_settled_iff.mp ⟨_, hformat⟩
    · exact exists_settled_iff.mp ⟨_, hcolor⟩
    · exact exists_settled_iff.mp ⟨_, hview⟩
  · rintro ⟨hdocumented, hholds⟩
    exact ⟨hdocumented.version, ⟨hdocumented.analysis, hholds.latency⟩,
      ⟨hdocumented.rules, hholds.rules⟩, hdocumented.output, hholds.format, hholds.color,
      hholds.view⟩

theorem exists_holds {version : String} {entries : List (String × Toml)}
    (h : (Toml.table entries).Distinct) (hdocumented : Documented version entries) :
    ∃ config, Holds entries config := by
  obtain ⟨latency, hlatency⟩ := exists_settled_iff.mpr hdocumented.latency
  obtain ⟨rules, hrules⟩ := exists_get?_of_rules h hdocumented.rules
  obtain ⟨format, hformat⟩ := exists_settled_iff.mpr hdocumented.format
  obtain ⟨color, hcolor⟩ := exists_settled_iff.mpr hdocumented.color
  obtain ⟨view, hview⟩ := exists_settled_iff.mpr hdocumented.view
  exact ⟨⟨latency, rules, format, color, view⟩, hlatency, hrules, hformat, hcolor, hview⟩

theorem exists_ofEntries_eq_ok_iff {version : String} {entries : List (String × Toml)}
    (h : (Toml.table entries).Distinct) :
    (∃ config, ofEntries entries = .ok (version, config)) ↔ Documented version entries := by
  constructor
  · rintro ⟨config, hread⟩
    exact ((ofEntries_eq_ok_iff h).mp hread).1
  · intro hdocumented
    obtain ⟨config, hholds⟩ := exists_holds h hdocumented
    exact ⟨config, (ofEntries_eq_ok_iff h).mpr ⟨hdocumented, hholds⟩⟩

section Parse

variable {text : String} {entries : List (String × Toml)}

theorem parse_eq_ok_iff (h : Toml.parse? text = some entries) {config : Config} :
    parse text = .ok config ↔ Documented "1" entries ∧ Holds entries config := by
  rw [← ofEntries_eq_ok_iff (distinct_of_parse? h), parse, h]
  dsimp only
  cases ofEntries entries with
  | error cause => exact ⟨nofun, nofun⟩
  | ok settings =>
    obtain ⟨version, found⟩ := settings
    by_cases hversion : version = "1"
    · simp [supportedVersion, hversion]
    · simp [supportedVersion, hversion]

theorem parse_eq_unsupportedVersion_iff (h : Toml.parse? text = some entries) {version : String} :
    parse text = .error (.unsupportedVersion version) ↔
      version ≠ "1" ∧ Documented version entries := by
  rw [← exists_ofEntries_eq_ok_iff (distinct_of_parse? h), parse, h]
  dsimp only
  cases ofEntries entries with
  | error cause => simp
  | ok settings =>
    obtain ⟨found, config⟩ := settings
    by_cases hfound : found = "1"
    · simp [supportedVersion, hfound, eq_comm]
    · have hother : found = version ↔ version ≠ "1" ∧ found = version :=
        ⟨fun hsame => ⟨hsame ▸ hfound, hsame⟩, fun hboth => hboth.2⟩
      simpa [supportedVersion, hfound] using hother

theorem exists_parse_eq_mismatch_iff (h : Toml.parse? text = some entries) :
    (∃ cause, parse text = .error (.mismatch cause)) ↔ ¬∃ version, Documented version entries := by
  simp only [← exists_ofEntries_eq_ok_iff (distinct_of_parse? h), parse, h]
  cases ofEntries entries with
  | error cause => simp
  | ok settings =>
    obtain ⟨version, config⟩ := settings
    by_cases hversion : version = "1"
    · simp [supportedVersion, hversion]
    · simp [supportedVersion, hversion]

/-- Of the documents, just the documented configurations of version 1 are accepted, and what is read
is what they give. If the version is the only thing that is wrong, it is reported as such, and every
other document as one that does not fit. -/
theorem parse_documented (h : Toml.parse? text = some entries) :
    ((∃ config, parse text = .ok config) ↔ Documented "1" entries) ∧
    (∀ config, parse text = .ok config ↔ Documented "1" entries ∧ Holds entries config) ∧
    (∀ version, parse text = .error (.unsupportedVersion version) ↔
      version ≠ "1" ∧ Documented version entries) ∧
    ((∃ cause, parse text = .error (.mismatch cause)) ↔
      ¬∃ version, Documented version entries) := by
  refine ⟨⟨?_, fun hdocumented => ?_⟩, fun _ => parse_eq_ok_iff h,
    fun _ => parse_eq_unsupportedVersion_iff h, exists_parse_eq_mismatch_iff h⟩
  · rintro ⟨config, hread⟩
    exact ((parse_eq_ok_iff h).mp hread).1
  · obtain ⟨config, hholds⟩ := exists_holds (distinct_of_parse? h) hdocumented
    exact ⟨config, (parse_eq_ok_iff h).mpr ⟨hdocumented, hholds⟩⟩

end Parse

/-- Here the section on analysis is a date, and headers alone write the table for the format. -/
theorem parse_documented_headers :
    Toml.parse? "analysis = 2024-01-01\n[output.format.jsonl]\n[jsreview]\nversion = '1'" =
      some [("analysis", .dateTime "2024-01-01"),
        ("output", .table [("format", .table [("jsonl", .table [])])]),
        ("jsreview", .table [("version", .string "1")])] ∧
    parse "analysis = 2024-01-01\n[output.format.jsonl]\n[jsreview]\nversion = '1'" =
      .ok ⟨0, .empty, ⟨.jsonl, .auto, .all⟩⟩ := by
  have hentries :
      Toml.parse? "analysis = 2024-01-01\n[output.format.jsonl]\n[jsreview]\nversion = '1'" =
        some [("analysis", .dateTime "2024-01-01"),
          ("output", .table [("format", .table [("jsonl", .table [])])]),
          ("jsreview", .table [("version", .string "1")])] := by
    have hlines :
        Toml.readLines "analysis = 2024-01-01\n[output.format.jsonl]\n[jsreview]\nversion = '1'" =
          some [.entry ⟨⟨[], "analysis"⟩, .dateTime "2024-01-01"⟩,
            .tableHeader ⟨["output", "format"], "jsonl"⟩, .tableHeader ⟨[], "jsreview"⟩,
            .entry ⟨⟨[], "version"⟩, .string "1"⟩] := by rfl
    rw [Toml.parse?, hlines]
    rfl
  refine ⟨hentries, ((parse_documented hentries).2.1 _).mpr ⟨?_, ?_⟩⟩
  · constructor <;> simp [given?, compound?, Compound.field?, List.lookup_cons, dateTimeKey]
    exact ⟨.jsonl, .inr (.inl rfl)⟩
  · constructor <;> simp [given?, compound?, Compound.field?, List.lookup_cons, dateTimeKey,
      Settled, switchEntries, Toggles.get?, Toggles.empty]
    exact .inr (.inl rfl)

end Config
end ScriptReview
