import ScriptReview.CommandLine.Run
import ScriptReview.Proofs.Registry.Toggles

/-!
How the search for a configuration ends.

A command that needs a configuration looks for its file, reads it, and applies its switches to the
built-in registry. `ConfigEnds` tells the ways apart in which this can go, by the exit code that a
failure leads to or by the settings to be used. One of them always applies (`exists_configEnds`).
-/

namespace ScriptReview

/-- The text is a document of the shape of a configuration, with this version and these settings. -/
def Config.Fits (text version : String) (config : Config) : Prop :=
  ∃ entries, Toml.parse? text = some entries ∧ Config.ofEntries entries = .ok (version, config)

namespace Config

theorem parse_of_fits {text version : String} {config : Config} (h : Fits text version config) :
    parse text = if version = "1" then .ok config else .error (.unsupportedVersion version) := by
  obtain ⟨entries, hentries, hconfig⟩ := h
  simp only [parse, hentries, hconfig]
  rfl

theorem parse_of_not_fits {text : String} (h : ¬∃ version config, Fits text version config) :
    ∃ error, parse text = .error error ∧ error.isInvalid = true := by
  cases hentries : Toml.parse? text with
  | none => exact ⟨.malformed, by simp only [parse, hentries], rfl⟩
  | some entries =>
    cases hconfig : ofEntries entries with
    | error cause => exact ⟨.mismatch cause, by simp only [parse, hentries, hconfig], rfl⟩
    | ok settings => exact absurd ⟨settings.1, settings.2, entries, hentries, hconfig⟩ h

end Config

namespace CommandLine

/-- What a file holds, if it can be read as text. -/
def Access.text? (access : Access) (path : String) : Option String :=
  ((access.read path).bind decodeText).toOption

/-- The file with the configuration: the one that is given, or else the one in the working directory
if it is there. -/
def configFile? (access : Access) : Option String → Option String
  | some path => some path
  | none => (access.kind? Config.fileName).map fun _ => Config.fileName

/-- How the search for a configuration ends: with an exit code, or with settings to be used. -/
inductive ConfigEnds (access : Access) (configPath : Option String) : Except Nat Config → Prop
  | absent (hfile : configFile? access configPath = none) :
      ConfigEnds access configPath (.ok Config.default)
  | unreadable {path : String} (hfile : configFile? access configPath = some path)
      (htext : access.text? path = none) :
      ConfigEnds access configPath (.error 2)
  | unfit {path text : String} (hfile : configFile? access configPath = some path)
      (htext : access.text? path = some text)
      (hfits : ¬∃ version config, Config.Fits text version config) :
      ConfigEnds access configPath (.error 3)
  | unsupported {path text version : String} {config : Config}
      (hfile : configFile? access configPath = some path)
      (htext : access.text? path = some text) (hfits : Config.Fits text version config)
      (hversion : version ≠ "1") :
      ConfigEnds access configPath (.error 2)
  | unknownRule {path text : String} {config : Config}
      (hfile : configFile? access configPath = some path)
      (htext : access.text? path = some text) (hfits : Config.Fits text "1" config)
      (hrules : ∃ toggle ∈ config.rules.entries, Registry.builtin.contains toggle.1 = false) :
      ConfigEnds access configPath (.error 2)
  | settled {path text : String} {config : Config}
      (hfile : configFile? access configPath = some path)
      (htext : access.text? path = some text) (hfits : Config.Fits text "1" config)
      (hrules : ∀ toggle ∈ config.rules.entries, Registry.builtin.contains toggle.1 = true) :
      ConfigEnds access configPath (.ok config)

variable {access : Access} {configPath : Option String}

theorem loadConfig_of_absent (h : configFile? access configPath = none) :
    loadConfig access configPath = .ok Config.default := by
  cases configPath with
  | some path => cases h
  | none => simp [loadConfig, Option.map_eq_none_iff.mp h]

theorem loadConfig_of_file {path : String} (h : configFile? access configPath = some path) :
    loadConfig access configPath = readConfig access path := by
  cases configPath with
  | some given => cases h; rfl
  | none =>
    obtain ⟨kind, hkind, rfl⟩ := Option.map_eq_some_iff.mp h
    simp [loadConfig, hkind]

theorem readConfig_of_unreadable {path : String} (h : access.text? path = none) :
    ∃ cause, readConfig access path = .error (.configUnreadable cause) := by
  cases htext : (access.read path).bind decodeText with
  | error cause => exact ⟨cause, by simp only [readConfig, htext]; rfl⟩
  | ok text => simp [Access.text?, htext, Except.toOption] at h

theorem readConfig_of_text {path text : String} (h : access.text? path = some text) :
    readConfig access path = (Config.parse text).mapError .config := by
  cases htext : (access.read path).bind decodeText with
  | error cause => simp [Access.text?, htext, Except.toOption] at h
  | ok found =>
    obtain rfl : found = text := by simpa [Access.text?, htext, Except.toOption] using h
    simp only [readConfig, htext]
    rfl

theorem configuredRegistry_of_contains {config : Config}
    (h : ∀ toggle ∈ config.rules.entries, Registry.builtin.contains toggle.1 = true) :
    configuredRegistry config = .ok (Registry.builtin.switched config.rules.entries) := by
  rw [configuredRegistry, Registry.ofToggles_of_contains h]
  rfl

theorem ConfigEnds.eq_ok {config : Config} (h : ConfigEnds access configPath (.ok config)) :
    loadConfig access configPath = .ok config ∧
      configuredRegistry config = .ok (Registry.builtin.switched config.rules.entries) := by
  cases h with
  | absent hfile =>
    have hrules : ∀ toggle ∈ Config.default.rules.entries,
        Registry.builtin.contains toggle.1 = true := by
      intro toggle hmem
      cases hmem
    exact ⟨loadConfig_of_absent hfile, configuredRegistry_of_contains hrules⟩
  | settled hfile htext hfits hrules =>
    refine ⟨?_, configuredRegistry_of_contains hrules⟩
    rw [loadConfig_of_file hfile, readConfig_of_text htext, Config.parse_of_fits hfits, if_pos rfl]
    rfl

/-- The two steps from a configuration file to a registry fail together. -/
theorem ConfigEnds.exists_error {exitCode : Nat}
    (h : ConfigEnds access configPath (.error exitCode)) :
    ∃ error : ReviewError, error.exitCode = exitCode ∧
      (loadConfig access configPath >>= configuredRegistry) = .error error := by
  cases h with
  | unreadable hfile htext =>
    obtain ⟨cause, hcause⟩ := readConfig_of_unreadable htext
    exact ⟨.configUnreadable cause, rfl, by rw [loadConfig_of_file hfile, hcause]; rfl⟩
  | unfit hfile htext hfits =>
    obtain ⟨error, hparse, hinvalid⟩ := Config.parse_of_not_fits hfits
    refine ⟨.config error, by simp [ReviewError.exitCode, hinvalid], ?_⟩
    rw [loadConfig_of_file hfile, readConfig_of_text htext, hparse]
    rfl
  | @unsupported path text version config hfile htext hfits hversion =>
    refine ⟨.config (.unsupportedVersion version), rfl, ?_⟩
    rw [loadConfig_of_file hfile, readConfig_of_text htext, Config.parse_of_fits hfits,
      if_neg hversion]
    rfl
  | @unknownRule path text config hfile htext hfits hrules =>
    obtain ⟨unknown, hunknown⟩ := Registry.exists_ofToggles_eq_error hrules
    refine ⟨.rule unknown, rfl, ?_⟩
    rw [loadConfig_of_file hfile, readConfig_of_text htext, Config.parse_of_fits hfits, if_pos rfl]
    show configuredRegistry config = _
    rw [configuredRegistry, hunknown]
    rfl

/-- A command that begins with these two steps fails with them. -/
theorem bind_bind_eq_error {error : ReviewError}
    (h : (loadConfig access configPath >>= configuredRegistry) = .error error)
    (next : Config → Registry → Except ReviewError Outcome) :
    (loadConfig access configPath >>= fun config => configuredRegistry config >>= next config) =
      .error error := by
  cases hload : loadConfig access configPath with
  | error cause =>
    rw [hload] at h
    exact congrArg _ (Except.error.inj h)
  | ok config =>
    rw [hload] at h
    have hregistry : configuredRegistry config = .error error := h
    show (configuredRegistry config >>= next config) = .error error
    rw [hregistry]
    rfl

theorem ConfigEnds.eq_default {result : Except Nat Config}
    (h : ConfigEnds access configPath result) (hfile : configFile? access configPath = none) :
    result = .ok Config.default := by
  cases h with
  | absent => rfl
  | _ => simp_all

theorem exists_configEnds (access : Access) (configPath : Option String) :
    ∃ result, ConfigEnds access configPath result := by
  cases hfile : configFile? access configPath with
  | none => exact ⟨_, .absent hfile⟩
  | some path =>
    cases htext : access.text? path with
    | none => exact ⟨_, .unreadable hfile htext⟩
    | some text =>
      by_cases hfits : ∃ version config, Config.Fits text version config
      · obtain ⟨version, config, hfits⟩ := hfits
        by_cases hversion : version = "1"
        · subst hversion
          by_cases hrules : ∃ toggle ∈ config.rules.entries,
              Registry.builtin.contains toggle.1 = false
          · exact ⟨_, .unknownRule hfile htext hfits hrules⟩
          · refine ⟨_, .settled hfile htext hfits fun toggle hmem => ?_⟩
            exact Bool.eq_true_of_not_eq_false fun hunknown => hrules ⟨toggle, hmem, hunknown⟩
        · exact ⟨_, .unsupported hfile htext hfits hversion⟩
      · exact ⟨_, .unfit hfile htext hfits⟩

end CommandLine
end ScriptReview
