import ScriptReview.Proofs.CommandLine.Example
import ScriptReview.Proofs.Render.RuleList
import ScriptReview.Proofs.Scan.Findings

/-!
The list of rules and the rules of a review.

A list of rules is printed without looking at any text, but it is made from the configuration that
a review of a text uses. A configuration that cannot be used ends both in the same way. Otherwise
what a review finds comes from listed rules, on each line in the order of the list
(`Review.listing_agrees`).
-/

namespace ScriptReview

/-- The entries of the rules with the given source. -/
def RuleEntry.withSource (source : RuleSource) (entries : List RuleEntry) : List RuleEntry :=
  entries.filter (·.source == source)

namespace RuleEntry

variable {α : Type} {entryOf : α → RuleEntry} {source : RuleSource}

theorem withSource_append (front back : List RuleEntry) :
    withSource source (front ++ back) = withSource source front ++ withSource source back :=
  List.filter_append _ _

theorem withSource_map_of_eq (h : ∀ a, (entryOf a).source = source) (found : List α) :
    withSource source (found.map entryOf) = found.map entryOf := by
  rw [withSource, List.filter_eq_self]
  simp [h]

theorem withSource_map_of_ne (h : ∀ a, (entryOf a).source ≠ source) (found : List α) :
    withSource source (found.map entryOf) = [] := by
  rw [withSource, List.filter_eq_nil_iff]
  simp [h]

end RuleEntry

/-- The findings on the code come from listed rules. -/
structure Report.IsListed (report : Report) (entries : List RuleEntry) (code : String) : Prop where
  /-- Each issue has the identifier and the severity of a listed rule for lines. -/
  severities : ∀ issue ∈ report.issues, ∃ entry ∈ RuleEntry.withSource .line entries,
    entry.ruleId = issue.ruleId.name ∧ entry.severity = some issue.severity.name
  /-- The issues of one line come from different rules, in the order of the list. -/
  lines : ∃ byLine : List (List Issue), report.issues = byLine.flatten ∧
    byLine.length = (Text.lines code.toList).length ∧
    ∀ index found, byLine[index]? = some found →
      (∀ issue ∈ found, issue.line = Count.clamp (index + 1) ∧
        issue.code = String.ofList (Text.trim (Text.lineAt code.toList (index + 1)))) ∧
      (found.map (·.ruleId.name)).Nodup ∧
      (found.map (·.ruleId.name)).Sublist ((RuleEntry.withSource .line entries).map (·.ruleId))
  /-- The suggestions are those of listed templates, in the order of the list. -/
  suggestions : ∃ called : List Template, called ⊆ Builtin.templates ∧
    (called.map RuleEntry.ofTemplate).Sublist (RuleEntry.withSource .suggestion entries) ∧
    report.suggestions = called.map (·.suggestion)

namespace Registry

variable {registry : Registry}

theorem withSource_line_entries (registry : Registry) :
    RuleEntry.withSource .line registry.entries = registry.lineRules.map RuleEntry.ofLineRule := by
  have hrule : ∀ rule, (RuleEntry.ofLineRule rule).source = .line := fun _ => rfl
  have htemplate : ∀ template, (RuleEntry.ofTemplate template).source ≠ .line := fun _ => nofun
  rw [entries, RuleEntry.withSource_append, RuleEntry.withSource_map_of_eq hrule,
    RuleEntry.withSource_map_of_ne htemplate, List.append_nil]

theorem withSource_suggestion_entries (registry : Registry) :
    RuleEntry.withSource .suggestion registry.entries =
      registry.templates.map RuleEntry.ofTemplate := by
  have hrule : ∀ rule, (RuleEntry.ofLineRule rule).source ≠ .suggestion := fun _ => nofun
  have htemplate : ∀ template, (RuleEntry.ofTemplate template).source = .suggestion :=
    fun _ => rfl
  rw [entries, RuleEntry.withSource_append, RuleEntry.withSource_map_of_ne hrule,
    RuleEntry.withSource_map_of_eq htemplate, List.nil_append]

theorem isListed_scan (hids : (registry.lineRules.map (·.id.name)).Nodup)
    (htemplates : registry.templates ⊆ Builtin.templates) (code : String) :
    (registry.scan code).IsListed registry.entries code := by
  refine ⟨fun issue hissue => ?_, ?_, ?_⟩
  · obtain ⟨rule, hrule, number, line, -, rfl⟩ := exists_rule_of_mem_issues hissue
    rw [withSource_line_entries]
    exact ⟨_, List.mem_map_of_mem hrule, rfl, rfl⟩
  · refine ⟨_, checkLines_eq_flatten registry 0 (Text.lines code.toList), List.length_mapIdx, ?_⟩
    intro index found hfound
    obtain ⟨hindex, rfl⟩ := List.getElem?_eq_some_iff.mp hfound
    rw [List.length_mapIdx] at hindex
    rw [List.getElem_mapIdx, Nat.zero_add]
    have hsublist := (registry.sublist_map_ruleId_checkLine (Count.clamp (index + 1))
      (Text.lines code.toList)[index]).map RuleId.name
    rw [List.map_map, List.map_map] at hsublist
    refine ⟨fun issue hissue => ?_, hids.sublist hsublist, ?_⟩
    · obtain ⟨rule, -, rfl⟩ := exists_rule_of_mem_checkLine hissue
      rw [Text.lineAt, Nat.add_sub_cancel, List.getD_eq_getElem?_getD,
        List.getElem?_eq_getElem hindex]
      exact ⟨rfl, rfl⟩
    · rw [withSource_line_entries, List.map_map]
      exact hsublist
  · refine ⟨registry.templates.filter (·.applies code.toList),
      fun template h => htemplates (List.mem_filter.mp h).1, ?_, rfl⟩
    rw [withSource_suggestion_entries]
    exact List.filter_sublist.map _

end Registry

namespace CommandLine
namespace Review

/-- What is listed in place of the review, with the same files and options. -/
def listing (review : Review) (format : Option OutputFormat) : Outcome :=
  (perform review.access review.input review.environment
    ⟨.list format, review.color, review.configPath⟩).outcome

variable {review : Review} {config : Config}

/-- A review and a list fail alike if there is no configuration to be used. -/
theorem listing_of_misconfigured {exitCode : Nat}
    (h : ConfigEnds review.access review.configPath (.error exitCode))
    (format : Option OutputFormat) : review.listing format = review.outcome := by
  obtain ⟨error, -, herror⟩ := h.exists_error
  have hanalyze : analyze review.access review.input review.environment review.arguments
      review.color review.configPath = .error error := bind_bind_eq_error herror _
  have hlist : listRules review.access format review.configPath = .error error :=
    bind_bind_eq_error herror _
  simp only [listing, outcome, perform, hanalyze, hlist]

theorem exitCode_listing (h : ConfigEnds review.access review.configPath (.ok config))
    (format : Option OutputFormat) : (review.listing format).exitCode = 0 := by
  obtain ⟨hload, hregistry⟩ := h.eq_ok
  simp only [listing, perform, listRules, hload, hregistry, bind, Except.bind]
  split
  · split <;> rfl
  · rfl

theorem output_listing_jsonl (h : ConfigEnds review.access review.configPath (.ok config)) :
    (review.listing (some .jsonl)).output =
      RuleEntry.jsonLines (Registry.builtin.switched config.rules.entries).entries := by
  obtain ⟨hload, hregistry⟩ := h.eq_ok
  simp only [listing, perform, listRules, hload, hregistry, bind, Except.bind]
  rfl

theorem isListed_reportOn (config : Config) (code : String) :
    (reportOn code config).IsListed (Registry.builtin.switched config.rules.entries).entries
      code := by
  have hsublist : (Registry.builtin.switched config.rules.entries).lineRules.Sublist
      Builtin.lineRules := List.filter_sublist
  have hids : (Builtin.lineRules.map (·.id.name)).Nodup := by decide
  exact Registry.isListed_scan (hids.sublist (hsublist.map _))
    (Registry.templates_switched_subset _ _) code

theorem output_reporting_of_no_code
    (h : ConfigEnds review.access review.configPath (.ok config))
    (hcode : ∀ code, review.text? = some code → Text.trim code.toList = [])
    (format : OutputFormat) (view : View) : (review.reporting format view).outcome.output = "" := by
  have hends : ∃ exitCode, (review.reporting format view).Ends exitCode "" := by
    cases htext : review.text? with
    | none => exact ⟨_, .unreadable h htext⟩
    | some code => exact ⟨_, .blank h htext (hcode code htext)⟩
  obtain ⟨exitCode, hends⟩ := hends
  exact hends.outcome_eq.2

/-- The list of rules tells what a review can find. If the configuration cannot be used, both say so
in the same words and print nothing. If it can, the rules are listed, and whatever the text is, what
a report on it shows comes from the rules on the list; without a text there is no report. -/
theorem listing_agrees (review : Review) :
    (∀ exitCode, ConfigEnds review.access review.configPath (.error exitCode) →
      ∀ format, review.listing format = review.outcome ∧
        review.outcome.exitCode = exitCode ∧ review.outcome.output = "") ∧
    ∀ config, ConfigEnds review.access review.configPath (.ok config) →
      (∀ format, (review.listing format).exitCode = 0) ∧
      ∃ entries, RuleEntry.ofJsonLines? (review.listing (some .jsonl)).output = some entries ∧
        (∀ code, review.text? = some code → Text.trim code.toList ≠ [] →
          ∃ report : Report,
            Report.ofJsonLines? (review.reporting .jsonl .all).outcome.output = some report ∧
            (∀ format view, (review.reporting format view).outcome.output =
              (review.reporting format view).printed config report) ∧
            report.IsListed entries code) ∧
        ((∀ code, review.text? = some code → Text.trim code.toList = []) →
          ∀ format view, (review.reporting format view).outcome.output = "") := by
  refine ⟨fun exitCode h format => ⟨listing_of_misconfigured h format, outcome_of_misconfigured h⟩,
    fun config h => ⟨exitCode_listing h,
      (Registry.builtin.switched config.rules.entries).entries, ?_, fun code htext hblank => ?_,
      output_reporting_of_no_code h⟩⟩
  · rw [output_listing_jsonl h, RuleEntry.ofJsonLines?_jsonLines]
  · have hreports : review.Reports config code := ⟨h, htext, hblank⟩
    refine ⟨reportOn code config, ?_, fun format view => hreports.output_reporting format view,
      isListed_reportOn config code⟩
    rw [hreports.output_reporting, printed_reporting_jsonl, Report.ofJsonLines?_jsonLines]

/-- A review with a configuration that is not there. -/
def ofMissingConfig : Review :=
  { ofInput declaration with configPath := some "missing.toml" }

theorem listing_agrees_declaration :
    (ofMissingConfig.listing none = ofMissingConfig.outcome ∧
      ofMissingConfig.outcome.exitCode = 2 ∧ ofMissingConfig.outcome.output = "") ∧
    ((ofInput declaration).listing none).exitCode = 0 ∧
    ∃ entries report,
      RuleEntry.ofJsonLines? ((ofInput declaration).listing (some .jsonl)).output = some entries ∧
      Report.ofJsonLines? ((ofInput declaration).reporting .jsonl .all).outcome.output =
        some report ∧
      report.IsListed entries "var total = 0;\n" := by
  have hmissing : ConfigEnds ofMissingConfig.access ofMissingConfig.configPath (.error 2) :=
    .unreadable rfl rfl
  have hreports := reports_declaration
  obtain ⟨hlists, entries, hentries, hfindings, -⟩ :=
    (listing_agrees (ofInput declaration)).2 _ hreports.config
  obtain ⟨report, hreport, -, hlisted⟩ := hfindings _ hreports.text hreports.notBlank
  exact ⟨(listing_agrees ofMissingConfig).1 2 hmissing none, hlists none, entries, report, hentries,
    hreport, hlisted⟩

end Review
end CommandLine
end ScriptReview
