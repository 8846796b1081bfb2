import ScriptReview.Config.Basic
import ScriptReview.Toml.Assembly
import ScriptReview.Toml.Decode

/-!
Reading a configuration.

Only the section that names the version has to be there. Sections and keys may come in any order,
and unknown ones are passed over. Instead of a table a section may be an array of its values in
their order, except for the switches of rules, which have no order.
-/

namespace ScriptReview

open Schema

/-! ## Sections -/

/-- The section that names the version. -/
def Config.versionOfToml : Toml → Except Mismatch String :=
  Toml.asRecord "struct ReviewMeta"
    (fun entries => do
      let version ← entries.foldlM
        (fun version (key, value) =>
          if key == "version" then do return some (← value.asString) else return version)
        none
      required "version" version)
    fun items =>
      match items with
      | first :: _ => first.asString
      | [] => .error (.wrongLength 0 (elementsOf "struct ReviewMeta" 1))

/-- The section on analysis, which holds the latency. -/
def Config.latencyOfToml : Toml → Except Mismatch Nat :=
  Toml.asRecord "struct AnalysisConfig"
    (fun entries => entries.foldlM
      (fun latency (key, value) =>
        if key == "simulated_latency_ms" then value.asNat else return latency)
      0)
    fun items => Toml.item items 0 0 Toml.asNat

/-- The section of switches. Each identifier is checked before its value. -/
def Toggles.ofToml : Toml → Except Mismatch Toggles :=
  Toml.asRecord "struct RulesConfig"
    (fun entries => do
      let switches ← entries.mapM fun (name, value) => do
        match RuleId.ofString? name with
        | some id => return (id, ← value.asBool)
        | none => throw .malformedRuleId
      return Toggles.ofList switches)
    fun _ => .error (.wrongType .sequence "struct RulesConfig")

def OutputFormat.ofToml : Toml → Except Mismatch OutputFormat :=
  Toml.asVariant all name

def ColorChoice.ofToml : Toml → Except Mismatch ColorChoice :=
  Toml.asVariant all name

def View.ofToml : Toml → Except Mismatch View :=
  Toml.asVariant every name

namespace OutputConfig

/-- Take one entry of the section over. -/
def set (output : OutputConfig) (key : String) (value : Toml) : Except Mismatch OutputConfig :=
  match key with
  | "format" => do return { output with format := ← OutputFormat.ofToml value }
  | "color" => do return { output with color := ← ColorChoice.ofToml value }
  | "view" => do return { output with view := ← View.ofToml value }
  | _ => .ok output

def ofToml : Toml → Except Mismatch OutputConfig :=
  Toml.asRecord "struct OutputConfig"
    (fun entries => entries.foldlM (fun output (key, value) => output.set key value) default)
    fun items => do
      let format ← Toml.item items 0 default.format OutputFormat.ofToml
      let color ← Toml.item items 1 default.color ColorChoice.ofToml
      let view ← Toml.item items 2 default.view View.ofToml
      return { format, color, view }

end OutputConfig

/-! ## The document -/

namespace Config

/-- A configuration with the version that its document names, if it names one so far. -/
structure Draft where
  version : Option String
  config : Config

/-- Take one entry of the document over. -/
def Draft.set (draft : Draft) (key : String) (value : Toml) : Except Mismatch Draft :=
  match key with
  | "jsreview" => do return { draft with version := some (← versionOfToml value) }
  | "analysis" => do
    return { draft with config := { draft.config with latency := ← latencyOfToml value } }
  | "rules" => do
    return { draft with config := { draft.config with rules := ← Toggles.ofToml value } }
  | "output" => do
    return { draft with config := { draft.config with output := ← OutputConfig.ofToml value } }
  | _ => .ok draft

/-- The version and the settings of a document. -/
def ofEntries (entries : List (String × Toml)) : Except Mismatch (String × Config) := do
  let draft ← entries.foldlM (fun draft (key, value) => draft.set key value)
    (⟨none, default⟩ : Draft)
  let version ← required "jsreview" draft.version
  return (version, draft.config)

/-- The configuration that a text writes. -/
def parse (text : String) : Except ConfigError Config :=
  match Toml.parse? text with
  | none => .error .malformed
  | some entries =>
    match ofEntries entries with
    | .error cause => .error (.mismatch cause)
    | .ok (version, config) =>
      if version = supportedVersion then .ok config else .error (.unsupportedVersion version)

end Config
end ScriptReview
