import Mathlib.Data.List.Basic
import ScriptReview.Proofs.Json.RoundTrip
import ScriptReview.Proofs.Report.Json
import ScriptReview.Proofs.Text.Joined
import ScriptReview.Render.Records

/-!
Reading reports for programs.

A report that is written with one JSON object on each line can be read line by line, and what is
read is what the view shows of the report, in its order; if the view shows everything, the report
itself is read back (`jsonLines_lossless`). A line is read by its field `record`, which says what
kind of line it is.
-/

namespace ScriptReview

/-- What one line of a written report says. -/
inductive ReportLine where
  | issue (issue : Issue)
  /-- A suggestion with its number in the report. -/
  | suggestion (number : Nat) (suggestion : Suggestion)
  /-- The figures, and how many issues and suggestions the report has. -/
  | metrics (metrics : Metrics) (issues suggestions : Nat)
  deriving DecidableEq

namespace ReportLine

def issue? : ReportLine → Option Issue
  | issue found => some found
  | _ => none

def suggestion? : ReportLine → Option Suggestion
  | suggestion _ found => some found
  | _ => none

def metrics? : ReportLine → Option Metrics
  | metrics found _ _ => some found
  | _ => none

/-- The field of an object that is a natural number. -/
def natField? (name : String) (value : Json) : Option Nat :=
  match value.field? name with
  | some (.number (.integer (.ofNat n))) => some n
  | _ => none

def ofJson? (value : Json) : Option ReportLine :=
  match value.field? "record" with
  | some (.string "issue") => do
    return issue (← (Issue.ofJson value).toOption)
  | some (.string "suggestion") => do
    return suggestion (← natField? "index" value) (← (Suggestion.ofJson value).toOption)
  | some (.string "metrics") => do
    return metrics (← (Metrics.ofJson value).toOption) (← natField? "issues" value)
      (← natField? "suggestions" value)
  | _ => none

/-- Reads one line. -/
def ofText? (line : List Char) : Option ReportLine :=
  (Json.parse? (String.ofList line)).bind ofJson?

end ReportLine

namespace Report

/-- What the lines of a report say under a view. Suggestions are counted from one. -/
def shownLines (view : View) (report : Report) : List ReportLine :=
  (if view.showsIssues then report.issues.map ReportLine.issue else []) ++
    (if view.showsSuggestions then
      report.suggestions.mapIdx fun index found => ReportLine.suggestion (index + 1) found
    else []) ++
    if view.showsMetrics then
      [ReportLine.metrics report.metrics report.issues.length report.suggestions.length]
    else []

/-- The report that lines make up. The figures have to be there, and only once. -/
def ofLines? (lines : List ReportLine) : Option Report :=
  match lines.filterMap ReportLine.metrics? with
  | [metrics] =>
    some
      { issues := lines.filterMap ReportLine.issue?
        suggestions := lines.filterMap ReportLine.suggestion?
        metrics }
  | _ => none

/-- Reads a report of which every line ends with a line feed. -/
def ofJsonLines? (text : String) : Option Report :=
  let lines := Text.lines text.toList
  if lines.getLast? = some [] then (lines.dropLast.mapM ReportLine.ofText?).bind ofLines? else none

end Report

/-! ## Single records -/

namespace ReportLine

theorem natField?_of_mem {fields : List (String × Json)} (h : (fields.map Prod.fst).Nodup)
    {name : String} {n : Nat} (hmem : (name, Json.ofNat n) ∈ fields) :
    natField? name (.object fields) = some n := by
  have hfield : Json.field? name (.object fields) = some (Json.ofNat n) :=
    Json.lastField?_of_mem h hmem
  rw [natField?, hfield]
  rfl

/-- The object that a line of a report is written as. -/
def fields : ReportLine → List (String × Json)
  | issue found => ("record", .string "issue") :: found.fields
  | suggestion number found =>
    ("record", .string "suggestion") :: ("index", Json.ofNat number) :: found.fields
  | metrics found issues suggestions =>
    ("record", .string "metrics") :: found.fields ++
      [("issues", Json.ofNat issues), ("suggestions", Json.ofNat suggestions)]

theorem nodup_fields (line : ReportLine) : (line.fields.map Prod.fst).Nodup := by
  cases line with
  | issue found => simp [fields, Issue.fields]
  | suggestion number found => simp [fields, Suggestion.fields]
  | metrics found issues suggestions => simp [fields, Metrics.fields]

/-- No field holds an array or an object. -/
theorem nestedWithin_of_mem_fields {line : ReportLine} {field : String × Json}
    (h : field ∈ line.fields) (depth : Nat) : Json.NestedWithin depth field.2 := by
  cases line with
  | issue found =>
    simp only [fields, Issue.fields, List.mem_cons, List.not_mem_nil, or_false] at h
    rcases h with rfl | rfl | rfl | rfl | rfl | rfl | rfl <;> constructor
  | suggestion number found =>
    simp only [fields, Suggestion.fields, List.mem_cons, List.not_mem_nil, or_false] at h
    rcases h with rfl | rfl | rfl | rfl | rfl | rfl <;> constructor
  | metrics found issues suggestions =>
    simp only [fields, Metrics.fields, List.cons_append, List.nil_append, List.mem_cons,
      List.not_mem_nil, or_false] at h
    rcases h with rfl | rfl | rfl | rfl | rfl | rfl | rfl <;> constructor

theorem ofJson?_fields (line : ReportLine) : ofJson? (.object line.fields) = some line := by
  have hnodup := line.nodup_fields
  cases line with
  | issue found =>
    have hkind : Json.field? "record" (.object (issue found).fields) = some (.string "issue") :=
      Json.lastField?_of_mem hnodup List.mem_cons_self
    have hfound : Issue.ofJson (.object (issue found).fields) = .ok found :=
      Issue.ofJson_eq_ok_iff.mpr (Issue.writtenAs_of_subset hnodup (List.subset_cons_self _ _))
    rw [ofJson?, hkind]
    simp only [hfound]
    rfl
  | suggestion number found =>
    have hkind : Json.field? "record" (.object (suggestion number found).fields) =
        some (.string "suggestion") := Json.lastField?_of_mem hnodup List.mem_cons_self
    have hnumber : natField? "index" (.object (suggestion number found).fields) = some number :=
      natField?_of_mem hnodup (List.mem_cons_of_mem _ List.mem_cons_self)
    have hfound : Suggestion.ofJson (.object (suggestion number found).fields) = .ok found :=
      Suggestion.ofJson_eq_ok_iff.mpr (Suggestion.writtenAs_of_subset hnodup fun _ h =>
        List.mem_cons_of_mem _ (List.mem_cons_of_mem _ h))
    rw [ofJson?, hkind]
    simp only [hnumber, hfound]
    rfl
  | metrics found issues suggestions =>
    have hkind : Json.field? "record" (.object (metrics found issues suggestions).fields) =
        some (.string "metrics") := Json.lastField?_of_mem hnodup List.mem_cons_self
    have hissues : natField? "issues" (.object (metrics found issues suggestions).fields) =
        some issues := natField?_of_mem hnodup (by simp [fields])
    have hsuggestions : natField? "suggestions"
        (.object (metrics found issues suggestions).fields) = some suggestions :=
      natField?_of_mem hnodup (by simp [fields])
    have hfound : Metrics.ofJson (.object (metrics found issues suggestions).fields) = .ok found :=
      Metrics.ofJson_eq_ok_iff.mpr (Metrics.writtenAs_of_subset hnodup fun _ h =>
        List.mem_cons_of_mem _ (List.mem_append_left _ h))
    rw [ofJson?, hkind]
    simp only [hissues, hsuggestions, hfound]
    rfl

/-- The text of a line, without the line feed. -/
def text (line : ReportLine) : List Char := Json.print (.object line.fields)

theorem parse?_text (line : ReportLine) :
    Json.parse? (String.ofList line.text) = some (.object line.fields) :=
  Json.parse?_render (.object fun _ h => nestedWithin_of_mem_fields h 127)

theorem ofText?_text (line : ReportLine) : ofText? line.text = some line := by
  rw [ofText?, parse?_text]
  exact ofJson?_fields line

end ReportLine

/-! ## Whole reports -/

/-- What is written item by item is read item by item. -/
theorem mapM_map_eq_some {α β : Type} {write : α → β} {read : β → Option α}
    (h : ∀ item, read (write item) = some item) (items : List α) :
    (items.map write).mapM read = some items := by
  induction items with
  | nil => rfl
  | cons item items ih => simp [h, ih]

theorem Json.lines_renderLines (values : List Json) :
    Text.lines (renderLines values).toList = values.map print ++ [[]] := by
  have htext : (renderLines values).toList = Text.unlines (values.map print) := by
    simp [renderLines, render, Text.unlines, String.toList_join, List.flatMap_map]
  rw [htext, Text.lines_unlines]
  rintro row hrow
  obtain ⟨value, -, rfl⟩ := List.mem_map.mp hrow
  exact newline_notMem_print value

namespace Report

theorem suggestionRecords_eq (number : Nat) (suggestions : List Suggestion) :
    Suggestion.records number suggestions =
      (suggestions.mapIdx fun index found => ReportLine.suggestion (index + number) found).map
        fun line => Json.object line.fields := by
  induction suggestions generalizing number with
  | nil => rfl
  | cons first more ih =>
    have hnumber : ∀ index, index + 1 + number = index + (number + 1) := fun index => by omega
    simp only [Suggestion.records, List.mapIdx_cons, List.map_cons, ih, hnumber, Nat.zero_add]
    rfl

/-- Every record is the object of what its line says. -/
theorem records_eq (view : View) (report : Report) :
    report.records view = (report.shownLines view).map fun line => Json.object line.fields := by
  have hissues : report.issues.map Issue.record =
      (report.issues.map ReportLine.issue).map fun line => Json.object line.fields := by
    rw [List.map_map]
    rfl
  rw [records, shownLines, hissues, suggestionRecords_eq, List.map_append, List.map_append]
  cases view <;> rfl

theorem lines_jsonLines (view : View) (report : Report) :
    Text.lines (report.jsonLines view).toList =
      (report.shownLines view).map ReportLine.text ++ [[]] := by
  rw [jsonLines, Json.lines_renderLines, records_eq, List.map_map]
  rfl

/-- What can be read off some line of the text is what the view shows. -/
theorem exists_line_iff {view : View} {report : Report} {shown : ReportLine} :
    (∃ line ∈ Text.lines (report.jsonLines view).toList, ReportLine.ofText? line = some shown) ↔
      shown ∈ report.shownLines view := by
  rw [lines_jsonLines]
  constructor
  · rintro ⟨line, hline, hread⟩
    rcases List.mem_append.mp hline with hline | hline
    · obtain ⟨written, hwritten, rfl⟩ := List.mem_map.mp hline
      rw [ReportLine.ofText?_text, Option.some.injEq] at hread
      exact hread ▸ hwritten
    · rw [List.mem_singleton.mp hline] at hread
      cases hread
  · intro hshown
    exact ⟨_, List.mem_append_left _ (List.mem_map_of_mem hshown), shown.ofText?_text⟩

theorem suggestion_mem_shownLines_iff {report : Report} {number : Nat} {suggestion : Suggestion} :
    ReportLine.suggestion number suggestion ∈ report.shownLines .suggestions ↔
      ∃ index, number = index + 1 ∧ report.suggestions[index]? = some suggestion := by
  have hshown : report.shownLines .suggestions =
      report.suggestions.mapIdx fun index found => ReportLine.suggestion (index + 1) found := by
    simp [shownLines, View.showsIssues, View.showsSuggestions, View.showsMetrics]
  rw [hshown, List.mem_mapIdx]
  constructor
  · rintro ⟨index, hindex, hsame⟩
    obtain ⟨hnumber, rfl⟩ := ReportLine.suggestion.inj hsame
    exact ⟨index, hnumber.symm, List.getElem?_eq_getElem hindex⟩
  · rintro ⟨index, rfl, hsuggestion⟩
    obtain ⟨hindex, rfl⟩ := List.getElem?_eq_some_iff.mp hsuggestion
    exact ⟨index, hindex, rfl⟩

/-- All lines of a report make up the report. -/
theorem ofLines?_shownLines (report : Report) :
    ofLines? (report.shownLines .all) = some report := by
  have hlines : report.shownLines .all = report.issues.map ReportLine.issue ++
      (report.suggestions.zipIdx.map fun numbered =>
        ReportLine.suggestion (numbered.2 + 1) numbered.1) ++
      [ReportLine.metrics report.metrics report.issues.length report.suggestions.length] := by
    rw [shownLines, List.mapIdx_eq_zipIdx_map]
    rfl
  have hissues : (report.shownLines .all).filterMap ReportLine.issue? = report.issues := by
    simp [hlines, Function.comp_def, ReportLine.issue?]
  have hsuggestions : (report.shownLines .all).filterMap ReportLine.suggestion? =
      report.suggestions := by
    simp [hlines, Function.comp_def, ReportLine.suggestion?]
  have hmetrics : (report.shownLines .all).filterMap ReportLine.metrics? = [report.metrics] := by
    simp [hlines, Function.comp_def, ReportLine.metrics?]
  rw [ofLines?, hmetrics]
  simp only [hissues, hsuggestions]

theorem ofJsonLines?_jsonLines (report : Report) :
    ofJsonLines? (report.jsonLines .all) = some report := by
  rw [ofJsonLines?, lines_jsonLines]
  simp only [List.getLast?_concat, if_true, List.dropLast_concat,
    mapM_map_eq_some ReportLine.ofText?_text, Option.bind_some, ofLines?_shownLines]

/-- What is written can be read. Each line feed ends a record, and the records are those of the
lines that the view shows, in their order. Under a view that shows everything they give the report
back. -/
theorem jsonLines_lossless (report : Report) (view : View) :
    (∃ written : List (List Char),
      Text.lines (report.jsonLines view).toList = written ++ [[]] ∧
      written.map ReportLine.ofText? = (report.shownLines view).map some ∧
      ∀ line ∈ written, ∃ fields : List (String × Json),
        Json.parse? (String.ofList line) = some (.object fields) ∧
          (fields.map Prod.fst).Nodup) ∧
      ofJsonLines? (report.jsonLines .all) = some report := by
  refine ⟨⟨(report.shownLines view).map ReportLine.text, lines_jsonLines view report, ?_, ?_⟩,
    ofJsonLines?_jsonLines report⟩
  · rw [List.map_map]
    exact List.map_congr_left fun line _ => line.ofText?_text
  · intro text htext
    obtain ⟨line, -, rfl⟩ := List.mem_map.mp htext
    exact ⟨line.fields, line.parse?_text, line.nodup_fields⟩

end Report
end ScriptReview
