import ScriptReview.Proofs.CommandLine.Configuration
import ScriptReview.Proofs.Schema
import ScriptReview.Proofs.Session.Step

/-!
How a review ends.

The exit code of a review is what a script that runs the program sees. `Review.Ends` lists the cases
in which a review ends with an exit code and an output, and `Review.outcome_ends` says that a run
ends as listed and in no other way, and that its exit code depends on nothing but the switches of
rules, the text and the number of the example. The report is that of a session, and whenever the
session has begun to make one it is there in the end (`analyze_ne_noReport`).
-/

namespace ScriptReview
namespace CommandLine

/-! ## The session of a review -/

section Sessions

variable {registry : Registry} {output : OutputConfig} {latency : Nat} {code : String}

theorem begin_sessionOn_of_blank (h : Text.trim code.toList = []) :
    (sessionOn registry output latency code).begin =
      (sessionOn registry output latency code, false) :=
  Session.begin_of_blank (List.isEmpty_iff.mpr h)

theorem begin_sessionOn_of_not_blank (h : Text.trim code.toList ≠ []) :
    (sessionOn registry output latency code).begin =
      ({ sessionOn registry output latency code with analyzing := true }, true) :=
  Session.begin_of_not_blank (Session.isCodeBlank_eq_false_iff.mpr h)

/-- Once an analysis has been begun, its report is there to be shown. -/
theorem conclude_of_analyzing {session : Session} (h : session.analyzing = true) (name : String)
    (exampleNumber : Option Nat) (output : OutputConfig) (colored : Bool) :
    conclude session name exampleNumber output colored =
      match exampleNumber with
      | some number => .ok (exampleOutcome session.scanned number)
      | none =>
        .ok (reviewOutcome name (session.registry.scan session.code)
          { output with view := session.view } colored session.latency) := by
  rw [conclude, Session.finish_of_analyzing h]
  rfl

theorem loadConfig_ne_noReport (access : Access) (configPath : Option String) :
    loadConfig access configPath ≠ .error .noReport := by
  cases hfile : configFile? access configPath with
  | none =>
    rw [loadConfig_of_absent hfile]
    exact nofun
  | some path =>
    rw [loadConfig_of_file hfile]
    intro h
    rcases bind_eq_error_iff.mp h with hread | ⟨text, -, hparse⟩
    · obtain ⟨cause, -, hcause⟩ := mapError_eq_error_iff.mp hread
      cases hcause
    · obtain ⟨cause, -, hcause⟩ := mapError_eq_error_iff.mp hparse
      cases hcause

/-- A review that has begun its analysis does not end without a report. -/
theorem analyze_ne_noReport (access : Access) (input : ByteArray) (environment : Environment)
    (arguments : AnalyzeArguments) (color : Option ColorChoice) (configPath : Option String) :
    analyze access input environment arguments color configPath ≠ .error .noReport := by
  intro h
  rcases bind_eq_error_iff.mp h with hload | ⟨config, -, h⟩
  · exact loadConfig_ne_noReport access configPath hload
  rcases bind_eq_error_iff.mp h with hregistry | ⟨registry, -, h⟩
  · obtain ⟨cause, -, hcause⟩ := mapError_eq_error_iff.mp hregistry
    cases hcause
  rcases bind_eq_error_iff.mp h with hread | ⟨⟨name, code⟩, -, h⟩
  · obtain ⟨cause, -, hcause⟩ := mapError_eq_error_iff.mp hread
    cases hcause
  -- From here on nothing fails. Even an example that is not there has an outcome.
  by_cases hblank : Text.trim code.toList = []
  · simp only [begin_sessionOn_of_blank hblank] at h
    cases h
  · simp only [begin_sessionOn_of_not_blank hblank] at h
    rw [conclude_of_analyzing rfl] at h
    split at h <;> cases h

end Sessions

/-! ## Reviews -/

/-- A review as it is asked for, with all that it can see. -/
structure Review where
  access : Access
  input : ByteArray
  environment : Environment
  arguments : AnalyzeArguments
  color : Option ColorChoice
  configPath : Option String

namespace Review

/-- How the review is carried out. -/
def outcome (review : Review) : Outcome :=
  (perform review.access review.input review.environment
    ⟨.analyze review.arguments, review.color, review.configPath⟩).outcome

/-- The text to be reviewed, if it can be read. -/
def text? (review : Review) : Option String :=
  match review.arguments.source with
  | .sample => some Session.sampleProgram
  | .standardInput => (decodeText review.input).toOption
  | .file path => review.access.text? path

/-- What the built-in rules and templates find in a text if the configuration does not switch them
off. -/
def reportOn (code : String) (config : Config) : Report :=
  (Registry.builtin.switched config.rules.entries).scan code

/-- A report as it is printed. The command line decides on the format, the view and the colors, or
else the configuration. -/
def printed (review : Review) (config : Config) (report : Report) : String :=
  let view := review.arguments.view.getD config.output.view
  match review.arguments.format.getD config.output.format with
  | .human =>
    (report.document view).render
      (isColored review.environment (review.color.getD config.output.color))
  | .jsonl => report.jsonLines view

/-- The review gets as far as to a report on the code, which is not blank. -/
structure Reports (review : Review) (config : Config) (code : String) : Prop where
  config : ConfigEnds review.access review.configPath (.ok config)
  text : review.text? = some code
  notBlank : Text.trim code.toList ≠ []

/-- The exit code and the output of a review. -/
inductive Ends (review : Review) : Nat → String → Prop
  | misconfigured {exitCode : Nat}
      (hconfig : ConfigEnds review.access review.configPath (.error exitCode)) :
      Ends review exitCode ""
  | unreadable {config : Config}
      (hconfig : ConfigEnds review.access review.configPath (.ok config))
      (htext : review.text? = none) :
      Ends review 2 ""
  | blank {config : Config} {code : String}
      (hconfig : ConfigEnds review.access review.configPath (.ok config))
      (htext : review.text? = some code) (hblank : Text.trim code.toList = []) :
      Ends review 0 ""
  | noExample {config : Config} {code : String} {number : Nat}
      (hreports : review.Reports config code)
      (hnumber : review.arguments.exampleNumber = some number)
      (hmissing : number = 0 ∨ (reportOn code config).suggestions.length < number) :
      Ends review 2 ""
  | exampleShown {config : Config} {code : String} {index : Nat} {suggestion : Suggestion}
      (hreports : review.Reports config code)
      (hnumber : review.arguments.exampleNumber = some (index + 1))
      (hsuggestion : (reportOn code config).suggestions[index]? = some suggestion) :
      Ends review 0 (suggestion.exampleCode ++ "\n")
  | clean {config : Config} {code : String}
      (hreports : review.Reports config code)
      (hnumber : review.arguments.exampleNumber = none)
      (hissues : (reportOn code config).issues = []) :
      Ends review 0 (review.printed config (reportOn code config))
  | flagged {config : Config} {code : String}
      (hreports : review.Reports config code)
      (hnumber : review.arguments.exampleNumber = none)
      (hissues : (reportOn code config).issues ≠ []) :
      Ends review 1 (review.printed config (reportOn code config))

/-- The configurations of the two reviews fail with one exit code or have the same switches. -/
def SameRules (review other : Review) : Prop :=
  ∀ result result', ConfigEnds review.access review.configPath result →
    ConfigEnds other.access other.configPath result' →
      result.map (·.rules) = result'.map (·.rules)

/-! ## A run -/

section Run

variable {review : Review} {config : Config} {code : String}

theorem text?_eq (review : Review) :
    review.text? =
      ((review.arguments.source.read review.access review.input).map Prod.snd).toOption := by
  cases hsource : review.arguments.source with
  | sample => simp [text?, hsource, Source.read, Except.map, Except.toOption]
  | standardInput =>
    cases htext : decodeText review.input <;>
      simp [text?, hsource, Source.read, htext, Except.map, Except.toOption]
  | file path =>
    cases htext : (review.access.read path).bind decodeText <;>
      simp [text?, hsource, Source.read, Access.text?, htext, Except.map, Except.toOption]

theorem exists_read_eq_error (h : review.text? = none) :
    ∃ cause, review.arguments.source.read review.access review.input = .error cause := by
  rw [text?_eq] at h
  cases hread : review.arguments.source.read review.access review.input with
  | error cause => exact ⟨cause, rfl⟩
  | ok found => simp [hread, Except.map, Except.toOption] at h

theorem exists_read_eq_ok (h : review.text? = some code) :
    ∃ name, review.arguments.source.read review.access review.input = .ok (name, code) := by
  rw [text?_eq] at h
  cases hread : review.arguments.source.read review.access review.input with
  | error cause => simp [hread, Except.map, Except.toOption] at h
  | ok found =>
    have hcode : found.2 = code := by simpa [hread, Except.map, Except.toOption] using h
    exact ⟨found.1, by rw [← hcode]⟩

theorem outcome_of_misconfigured {exitCode : Nat}
    (h : ConfigEnds review.access review.configPath (.error exitCode)) :
    review.outcome.exitCode = exitCode ∧ review.outcome.output = "" := by
  obtain ⟨error, hcode, herror⟩ := h.exists_error
  have hanalyze : analyze review.access review.input review.environment review.arguments
      review.color review.configPath = .error error := bind_bind_eq_error herror _
  simp only [outcome, perform, hanalyze]
  exact ⟨hcode, rfl⟩

theorem outcome_of_unreadable (hconfig : ConfigEnds review.access review.configPath (.ok config))
    (htext : review.text? = none) :
    review.outcome.exitCode = 2 ∧ review.outcome.output = "" := by
  obtain ⟨hload, hregistry⟩ := hconfig.eq_ok
  obtain ⟨cause, hread⟩ := exists_read_eq_error htext
  simp only [outcome, perform, analyze, hload, hregistry, hread, bind, Except.bind, Except.mapError]
  exact ⟨rfl, rfl⟩

theorem outcome_of_blank (hconfig : ConfigEnds review.access review.configPath (.ok config))
    (htext : review.text? = some code) (hblank : Text.trim code.toList = []) :
    review.outcome.exitCode = 0 ∧ review.outcome.output = "" := by
  obtain ⟨hload, hregistry⟩ := hconfig.eq_ok
  obtain ⟨name, hread⟩ := exists_read_eq_ok htext
  simp only [outcome, perform, analyze, hload, hregistry, hread, bind, Except.bind,
    Except.mapError, begin_sessionOn_of_blank hblank]
  exact ⟨rfl, rfl⟩

/-- The session of the review, once the code is scanned. -/
def reviewed (review : Review) (config : Config) (code : String) : Session :=
  (sessionOn (Registry.builtin.switched config.rules.entries)
    (effectiveOutput config review.arguments review.color)
    (review.arguments.delay.getD config.latency) code).scanned

theorem report_reviewed (review : Review) (config : Config) (code : String) :
    (review.reviewed config code).report = some (reportOn code config) := rfl

/-- What is left to do once there is a report. -/
theorem Reports.outcome_eq (h : review.Reports config code) :
    ∃ name, review.outcome =
      match review.arguments.exampleNumber with
      | some number => exampleOutcome (review.reviewed config code) number
      | none =>
        let output := effectiveOutput config review.arguments review.color
        reviewOutcome name (reportOn code config) output
          (isColored review.environment output.color)
          (review.arguments.delay.getD config.latency) := by
  obtain ⟨hload, hregistry⟩ := h.config.eq_ok
  obtain ⟨name, hread⟩ := exists_read_eq_ok h.text
  refine ⟨name, ?_⟩
  simp only [outcome, perform, analyze, hload, hregistry, hread, bind, Except.bind,
    Except.mapError, begin_sessionOn_of_not_blank h.notBlank]
  rw [conclude_of_analyzing rfl]
  cases review.arguments.exampleNumber <;> rfl

theorem exampleOutcome_of_missing {session : Session} {report : Report} {number : Nat}
    (hreport : session.report = some report)
    (h : number = 0 ∨ report.suggestions.length < number) :
    (exampleOutcome session number).exitCode = 2 ∧
      (exampleOutcome session number).output = "" := by
  cases number with
  | zero => exact ⟨rfl, rfl⟩
  | succ index =>
    have hindex : report.suggestions.length ≤ index := by omega
    have hnone : session.copyExample index = none := by
      rw [Session.copyExample_eq hreport, List.getElem?_eq_none hindex, Option.map_none]
    simp only [exampleOutcome, exampleWithNumber, hnone]
    exact ⟨rfl, rfl⟩

theorem exampleOutcome_of_getElem? {session : Session} {report : Report} {index : Nat}
    {suggestion : Suggestion} (hreport : session.report = some report)
    (h : report.suggestions[index]? = some suggestion) :
    (exampleOutcome session (index + 1)).exitCode = 0 ∧
      (exampleOutcome session (index + 1)).output = suggestion.exampleCode ++ "\n" := by
  have hsome : session.copyExample index = some suggestion.exampleCode := by
    rw [Session.copyExample_eq hreport, h, Option.map_some]
  simp only [exampleOutcome, exampleWithNumber, hsome]
  exact ⟨rfl, rfl⟩

theorem Ends.outcome_eq {exitCode : Nat} {output : String} (h : review.Ends exitCode output) :
    review.outcome.exitCode = exitCode ∧ review.outcome.output = output := by
  cases h with
  | misconfigured hconfig => exact outcome_of_misconfigured hconfig
  | unreadable hconfig htext => exact outcome_of_unreadable hconfig htext
  | blank hconfig htext hblank => exact outcome_of_blank hconfig htext hblank
  | noExample hreports hnumber hmissing =>
    obtain ⟨name, houtcome⟩ := hreports.outcome_eq
    rw [houtcome, hnumber]
    exact exampleOutcome_of_missing (report_reviewed _ _ _) hmissing
  | exampleShown hreports hnumber hsuggestion =>
    obtain ⟨name, houtcome⟩ := hreports.outcome_eq
    rw [houtcome, hnumber]
    exact exampleOutcome_of_getElem? (report_reviewed _ _ _) hsuggestion
  | clean hreports hnumber hissues =>
    obtain ⟨name, houtcome⟩ := hreports.outcome_eq
    rw [houtcome, hnumber]
    exact ⟨by simp [reviewOutcome, Report.isClean, hissues], rfl⟩
  | flagged hreports hnumber hissues =>
    obtain ⟨name, houtcome⟩ := hreports.outcome_eq
    rw [houtcome, hnumber]
    exact ⟨by simp [reviewOutcome, Report.isClean, hissues], rfl⟩

theorem Reports.exists_ends (h : review.Reports config code) :
    ∃ exitCode output, review.Ends exitCode output := by
  cases hnumber : review.arguments.exampleNumber with
  | none =>
    by_cases hissues : (reportOn code config).issues = []
    · exact ⟨_, _, .clean h hnumber hissues⟩
    · exact ⟨_, _, .flagged h hnumber hissues⟩
  | some number =>
    by_cases hmissing : number = 0 ∨ (reportOn code config).suggestions.length < number
    · exact ⟨_, _, .noExample h hnumber hmissing⟩
    · obtain ⟨index, rfl⟩ : ∃ index, number = index + 1 := ⟨number - 1, by omega⟩
      have hindex : index < (reportOn code config).suggestions.length := by omega
      exact ⟨_, _, .exampleShown h hnumber (List.getElem?_eq_getElem hindex)⟩

theorem exists_ends (review : Review) : ∃ exitCode output, review.Ends exitCode output := by
  obtain ⟨result, hconfig⟩ := exists_configEnds review.access review.configPath
  cases result with
  | error exitCode => exact ⟨_, _, .misconfigured hconfig⟩
  | ok config =>
    cases htext : review.text? with
    | none => exact ⟨_, _, .unreadable hconfig htext⟩
    | some code =>
      by_cases hblank : Text.trim code.toList = []
      · exact ⟨_, _, .blank hconfig htext hblank⟩
      · exact Reports.exists_ends ⟨hconfig, htext, hblank⟩

theorem ends_iff {exitCode : Nat} {output : String} :
    review.Ends exitCode output ↔
      review.outcome.exitCode = exitCode ∧ review.outcome.output = output := by
  constructor
  · exact Ends.outcome_eq
  · -- Some case applies, and what it says is what happens, so it is the case in question.
    rintro ⟨rfl, rfl⟩
    obtain ⟨exitCode, output, h⟩ := exists_ends review
    obtain ⟨hcode, houtput⟩ := h.outcome_eq
    rw [hcode, houtput]
    exact h

/-! ## What the exit code depends on -/

theorem reportOn_congr {other : Config} (h : config.rules = other.rules) (code : String) :
    reportOn code config = reportOn code other := by
  rw [reportOn, reportOn, h]

theorem SameRules.exists_config {other : Review} (h : review.SameRules other)
    (hconfig : ConfigEnds review.access review.configPath (.ok config)) :
    ∃ config', ConfigEnds other.access other.configPath (.ok config') ∧
      config.rules = config'.rules := by
  obtain ⟨result, hresult⟩ := exists_configEnds other.access other.configPath
  have hsame := h _ _ hconfig hresult
  cases result with
  | error exitCode => cases hsame
  | ok config' => exact ⟨config', hresult, Except.ok.inj hsame⟩

theorem SameRules.exists_reports {other : Review} (h : review.SameRules other)
    (htext : review.text? = other.text?) (hreports : review.Reports config code) :
    ∃ config', other.Reports config' code ∧ reportOn code config = reportOn code config' := by
  obtain ⟨config', hconfig, hrules⟩ := h.exists_config hreports.config
  exact ⟨config', ⟨hconfig, htext ▸ hreports.text, hreports.notBlank⟩, reportOn_congr hrules code⟩

/-- The other review ends by the same case. -/
theorem Ends.exists_output {other : Review} {exitCode : Nat} {output : String}
    (hends : review.Ends exitCode output) (hrules : review.SameRules other)
    (htext : review.text? = other.text?)
    (hnumber : review.arguments.exampleNumber = other.arguments.exampleNumber) :
    ∃ output', other.Ends exitCode output' := by
  cases hends with
  | misconfigured hconfig =>
    obtain ⟨result, hresult⟩ := exists_configEnds other.access other.configPath
    have hsame := hrules _ _ hconfig hresult
    cases result with
    | error exitCode =>
      obtain rfl := Except.error.inj hsame
      exact ⟨_, .misconfigured hresult⟩
    | ok config' => cases hsame
  | unreadable hconfig hnone =>
    obtain ⟨config', hconfig', -⟩ := hrules.exists_config hconfig
    exact ⟨_, .unreadable hconfig' (htext ▸ hnone)⟩
  | blank hconfig hsome hblank =>
    obtain ⟨config', hconfig', -⟩ := hrules.exists_config hconfig
    exact ⟨_, .blank hconfig' (htext ▸ hsome) hblank⟩
  | noExample hreports hasked hmissing =>
    obtain ⟨config', hreports', hreport⟩ := hrules.exists_reports htext hreports
    exact ⟨_, .noExample hreports' (hnumber ▸ hasked) (hreport ▸ hmissing)⟩
  | exampleShown hreports hasked hsuggestion =>
    obtain ⟨config', hreports', hreport⟩ := hrules.exists_reports htext hreports
    exact ⟨_, .exampleShown hreports' (hnumber ▸ hasked) (hreport ▸ hsuggestion)⟩
  | clean hreports hasked hissues =>
    obtain ⟨config', hreports', hreport⟩ := hrules.exists_reports htext hreports
    exact ⟨_, .clean hreports' (hnumber ▸ hasked) (hreport ▸ hissues)⟩
  | flagged hreports hasked hissues =>
    obtain ⟨config', hreports', hreport⟩ := hrules.exists_reports htext hreports
    exact ⟨_, .flagged hreports' (hnumber ▸ hasked) (hreport ▸ hissues)⟩

end Run

/-- A run ends by exactly one of the cases, with its exit code and its output. Reviews of one text
with the same switches have one exit code, whatever their formats, views, colors and delays are and
wherever the text comes from. -/
theorem outcome_ends (review : Review) :
    (∀ exitCode output, review.Ends exitCode output ↔
      review.outcome.exitCode = exitCode ∧ review.outcome.output = output) ∧
    ∀ other : Review, review.SameRules other → review.text? = other.text? →
      review.arguments.exampleNumber = other.arguments.exampleNumber →
        review.outcome.exitCode = other.outcome.exitCode := by
  refine ⟨fun exitCode output => ends_iff, fun other hrules htext hnumber => ?_⟩
  obtain ⟨exitCode, output, hends⟩ := exists_ends review
  obtain ⟨output', hends'⟩ := hends.exists_output hrules htext hnumber
  rw [hends.outcome_eq.1, hends'.outcome_eq.1]

theorem sameRules_of_absent {review other : Review}
    (h : configFile? review.access review.configPath = none)
    (hother : configFile? other.access other.configPath = none) : review.SameRules other := by
  intro result result' hresult hresult'
  rw [hresult.eq_default h, hresult'.eq_default hother]

/-- A review of a file in the working directory, where there is no configuration. -/
def ofFile (contents : ByteArray) : Review where
  access := .ofFiles [("app.js", .ok contents)]
  input := .empty
  environment := ⟨none, none⟩
  arguments := ⟨some "app.js", false, some .human, some .metrics, some 100, none⟩
  color := some .always
  configPath := none

/-- A review of standard input, where there is no configuration either. -/
def ofInput (contents : ByteArray) : Review where
  access := .ofFiles []
  input := contents
  environment := ⟨some "xterm", none⟩
  arguments := ⟨none, false, some .jsonl, none, none, none⟩
  color := none
  configPath := none

def declaration : ByteArray := "var total = 0;\n".toUTF8

theorem outcome_ends_declaration :
    (ofFile declaration).SameRules (ofInput declaration) ∧
      (ofFile declaration).text? = (ofInput declaration).text? ∧
      (ofFile declaration).outcome.exitCode = (ofInput declaration).outcome.exitCode ∧
      (ofInput declaration).outcome.exitCode = 1 := by
  have hrules : (ofFile declaration).SameRules (ofInput declaration) :=
    sameRules_of_absent (by rfl) (by rfl)
  have htext : (ofFile declaration).text? = (ofInput declaration).text? := rfl
  have hflagged : (ofInput declaration).outcome.exitCode = 1 := by decide +kernel
  exact ⟨hrules, htext, (outcome_ends (ofFile declaration)).2 _ hrules htext rfl, hflagged⟩

end Review
end CommandLine
end ScriptReview
