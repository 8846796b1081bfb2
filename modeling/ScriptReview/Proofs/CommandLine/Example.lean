import ScriptReview.Proofs.CommandLine.Analyze
import ScriptReview.Proofs.Render.Faithful
import ScriptReview.Proofs.Render.Numbered
import ScriptReview.Proofs.Report.Records

/-!
Examples by their numbers.

A review can be asked for the example of one suggestion alone. The number that it takes is the one
that reports give to the suggestion, both those for programs and those for people
(`Review.example_numbered`), and what is written does not depend on how a report would look.
-/

namespace ScriptReview

/-- The suggestion with the number, counted from one, has the example. -/
def Report.HasExample (report : Report) (number : Nat) (code : String) : Prop :=
  ∃ index suggestion, number = index + 1 ∧ report.suggestions[index]? = some suggestion ∧
    suggestion.exampleCode = code

namespace CommandLine
namespace Review

/-- The review, asked for the example of the suggestion with the number. -/
def asking (review : Review) (number : Nat) : Review :=
  { review with arguments := { review.arguments with exampleNumber := some number } }

/-- The review, asked for a report in the format and under the view. -/
def reporting (review : Review) (format : OutputFormat) (view : View) : Review :=
  { review with
    arguments :=
      { review.arguments with format := some format, view := some view, exampleNumber := none } }

/-- The review with another format, view and color. -/
def restyled (review : Review) (format : Option OutputFormat) (view : Option View)
    (color : Option ColorChoice) (environment : Environment) : Review :=
  { review with
    arguments := { review.arguments with format, view }
    color
    environment }

/-- A line of the text is the record of a suggestion that has the number and the example. -/
def Lists (printed : String) (number : Nat) (code : String) : Prop :=
  ∃ line ∈ Text.lines printed.toList, ∃ suggestion,
    ReportLine.ofText? line = some (.suggestion number suggestion) ∧ suggestion.exampleCode = code

/-- A line of the text, with or without styles, begins with the number and goes on with the title of
a template that has the example. -/
def Numbers (printed : String) (number : Nat) (code : String) : Prop :=
  ∃ line ∈ Text.lines printed.toList, ∃ template ∈ Builtin.templates, ∃ styled,
    line = (Render.titleRow number template.suggestion).chars styled ∧
      template.suggestion.exampleCode = code

end Review

/-! ## The example alone -/

section Example

variable {session : Session} {report : Report} {number : Nat} {code : String}

theorem exampleWithNumber_eq_ok_iff (hreport : session.report = some report) :
    exampleWithNumber session number = .ok code ↔ report.HasExample number code := by
  cases number with
  | zero =>
    constructor
    · intro h
      cases h
    · rintro ⟨index, suggestion, hnumber, -⟩
      cases hnumber
  | succ index =>
    cases hsuggestion : report.suggestions[index]? with
    | none =>
      simp [exampleWithNumber, Session.copyExample_eq hreport, Report.HasExample, hsuggestion]
    | some suggestion =>
      simp [exampleWithNumber, Session.copyExample_eq hreport, Report.HasExample, hsuggestion]

theorem eq_noSuchSuggestion {error : ReviewError}
    (h : exampleWithNumber session number = .error error) : error = .noSuchSuggestion number := by
  cases number with
  | zero => exact (Except.error.inj h).symm
  | succ index =>
    rw [exampleWithNumber] at h
    split at h
    · cases h
    · exact (Except.error.inj h).symm

theorem exampleOutcome_succeeds_iff (hreport : session.report = some report) :
    (exampleOutcome session number).exitCode = 0 ∧
        (exampleOutcome session number).output = code ++ "\n" ↔
      report.HasExample number code := by
  rw [← exampleWithNumber_eq_ok_iff hreport]
  cases hexample : exampleWithNumber session number with
  | error error =>
    obtain rfl := eq_noSuchSuggestion hexample
    simp [exampleOutcome, hexample, Except.map, Outcome.ofResult, Outcome.failure,
      ReviewError.exitCode]
  | ok found =>
    simp [exampleOutcome, hexample, Except.map, Outcome.ofResult, Outcome.success]

/-- A number that no suggestion has is an error. -/
theorem exampleOutcome_of_not_hasExample (hreport : session.report = some report)
    (h : ∀ code, ¬report.HasExample number code) :
    exampleOutcome session number =
      { Outcome.failure 2 (ReviewError.noSuchSuggestion number).message with
        delay := session.latency } := by
  cases hexample : exampleWithNumber session number with
  | error error =>
    obtain rfl := eq_noSuchSuggestion hexample
    rw [exampleOutcome, hexample]
    rfl
  | ok found => exact absurd ((exampleWithNumber_eq_ok_iff hreport).mp hexample) (h found)

end Example

namespace Review

/-! ## Numbers in reports -/

variable {report : Report} {number : Nat} {code : String}

theorem lists_jsonLines_iff :
    Lists (report.jsonLines .suggestions) number code ↔ report.HasExample number code := by
  constructor
  · rintro ⟨line, hline, suggestion, hread, rfl⟩
    have hshown := Report.exists_line_iff.mp ⟨line, hline, hread⟩
    obtain ⟨index, rfl, hsuggestion⟩ := Report.suggestion_mem_shownLines_iff.mp hshown
    exact ⟨index, suggestion, rfl, hsuggestion, rfl⟩
  · rintro ⟨index, suggestion, rfl, hsuggestion, rfl⟩
    have hshown : ReportLine.suggestion (index + 1) suggestion ∈ report.shownLines .suggestions :=
      Report.suggestion_mem_shownLines_iff.mpr ⟨index, rfl, hsuggestion⟩
    obtain ⟨line, hline, hread⟩ := Report.exists_line_iff.mpr hshown
    exact ⟨line, hline, suggestion, hread, rfl⟩

theorem numbers_document_iff (hreport : report.IsBuiltin) {view : View}
    (hview : view.showsSuggestions = true) (styled : Bool) :
    Numbers ((report.document view).render styled) number code ↔ report.HasExample number code := by
  rw [Numbers, Report.lines_render_document hreport.isUnbroken]
  constructor
  · rintro ⟨line, hline, template, htemplate, styled', rfl, rfl⟩
    have hbegins := Render.beginsWithNumber_titleRow styled' number template.suggestion
    rcases List.mem_append.mp hline with hline | hline
    · obtain ⟨row, hrow, hsame⟩ := List.mem_map.mp hline
      rw [← hsame] at hbegins
      obtain ⟨index, suggestion, hsuggestion, rfl⟩ :=
        Report.exists_eq_titleRow_of_mem_rows hrow hbegins
      have hbuiltin := hreport.suggestions suggestion (List.mem_of_getElem? hsuggestion)
      obtain ⟨rfl, rfl⟩ := Render.titleRow_inj hbuiltin ⟨template, htemplate, rfl⟩ hsame
      exact ⟨index, _, rfl, hsuggestion, rfl⟩
    · rw [List.mem_singleton.mp hline] at hbegins
      cases hbegins
  · rintro ⟨index, suggestion, rfl, hsuggestion, rfl⟩
    obtain ⟨template, htemplate, rfl⟩ :=
      hreport.suggestions suggestion (List.mem_of_getElem? hsuggestion)
    have hrow : Render.titleRow (index + 1) template.suggestion ∈ report.rows view :=
      Report.titleRow_mem_rows hview hsuggestion
    exact ⟨_, List.mem_append_left _ (List.mem_map_of_mem hrow), template, htemplate, styled, rfl,
      rfl⟩

/-! ## Runs -/

variable {review : Review} {config : Config}

theorem Reports.outcome_asking (h : review.Reports config code) (number : Nat) :
    (review.asking number).outcome = exampleOutcome (review.reviewed config code) number := by
  have hasking : (review.asking number).Reports config code := ⟨h.config, h.text, h.notBlank⟩
  obtain ⟨name, houtcome⟩ := hasking.outcome_eq
  exact houtcome

theorem Reports.output_reporting (h : review.Reports config code) (format : OutputFormat)
    (view : View) :
    (review.reporting format view).outcome.output =
      (review.reporting format view).printed config (reportOn code config) := by
  have hreporting : (review.reporting format view).Reports config code :=
    ⟨h.config, h.text, h.notBlank⟩
  obtain ⟨name, houtcome⟩ := hreporting.outcome_eq
  rw [houtcome]
  rfl

theorem printed_reporting_jsonl (view : View) :
    (review.reporting .jsonl view).printed config report = report.jsonLines view := rfl

theorem printed_reporting_human (view : View) :
    (review.reporting .human view).printed config report =
      (report.document view).render
        (isColored review.environment (review.color.getD config.output.color)) := rfl

/-- A review that is asked for the example with a number writes just the example of the suggestion
to which a report for programs, or one for people, gives this number, and fails if there is none.
How a report would look plays no part in it. -/
theorem example_numbered (review : Review) (hreports : ∃ config code, review.Reports config code)
    (number : Nat) :
    (∀ code, (review.asking number).outcome.exitCode = 0 ∧
        (review.asking number).outcome.output = code ++ "\n" ↔
      Lists (review.reporting .jsonl .suggestions).outcome.output number code) ∧
    (∀ code view, view.showsSuggestions = true →
      (Lists (review.reporting .jsonl .suggestions).outcome.output number code ↔
        Numbers (review.reporting .human view).outcome.output number code)) ∧
    ((∀ code, ¬Lists (review.reporting .jsonl .suggestions).outcome.output number code) →
      (review.asking number).outcome.exitCode = 2 ∧ (review.asking number).outcome.output = "" ∧
        (review.asking number).outcome.diagnostics =
          "Error: " ++ (ReviewError.noSuchSuggestion number).message ++ "\n") ∧
    ∀ format view color environment,
      ((review.restyled format view color environment).asking number).outcome =
        (review.asking number).outcome := by
  obtain ⟨config, text, hreports⟩ := hreports
  have hbuiltin : (reportOn text config).IsBuiltin := Registry.isBuiltin_scan_switched _ text
  rw [hreports.outcome_asking, hreports.output_reporting, printed_reporting_jsonl]
  simp only [hreports.output_reporting, printed_reporting_human, lists_jsonLines_iff]
  have hreport : (review.reviewed config text).report = some (reportOn text config) :=
    report_reviewed review config text
  refine ⟨fun code => exampleOutcome_succeeds_iff hreport, fun code view hview => ?_, fun h => ?_,
    ?_⟩
  · rw [numbers_document_iff hbuiltin hview]
  · rw [exampleOutcome_of_not_hasExample hreport h]
    exact ⟨rfl, rfl, String.empty_append⟩
  · intro format view color environment
    have hrestyled : (review.restyled format view color environment).Reports config text :=
      ⟨hreports.config, hreports.text, hreports.notBlank⟩
    rw [hrestyled.outcome_asking]
    rfl

theorem reports_declaration :
    (ofInput declaration).Reports Config.default "var total = 0;\n" where
  config := .absent rfl
  text := by decide +kernel
  notBlank := by decide

theorem example_numbered_declaration :
    (∃ config code, (ofInput declaration).Reports config code) ∧
      Lists ((ofInput declaration).reporting .jsonl .suggestions).outcome.output 1
        Builtin.modernDeclarations.suggestion.exampleCode ∧
      Numbers ((ofInput declaration).reporting .human .all).outcome.output 1
        Builtin.modernDeclarations.suggestion.exampleCode := by
  have hreports := reports_declaration
  obtain ⟨hlisted, hnumbered, -, -⟩ := example_numbered (ofInput declaration) ⟨_, _, hreports⟩ 1
  have houtcome : ((ofInput declaration).asking 1).outcome.exitCode = 0 ∧
      ((ofInput declaration).asking 1).outcome.output =
        Builtin.modernDeclarations.suggestion.exampleCode ++ "\n" := by
    decide +kernel
  have hlists := (hlisted _).mp houtcome
  exact ⟨⟨_, _, hreports⟩, hlists, (hnumbered _ .all rfl).mp hlists⟩

end Review
end CommandLine
end ScriptReview
