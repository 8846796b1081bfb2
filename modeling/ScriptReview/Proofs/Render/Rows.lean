import ScriptReview.Proofs.Text.Digits
import ScriptReview.Proofs.Text.Padded
import ScriptReview.Render.Human

/-!
The rows of a report for people.

A report is printed in rows with a line feed after each: a heading for each section, two rows for an
issue, and for a suggestion its title, its description, an empty row and its example. If no text of
the report but the examples holds a line feed, the rows are the lines of what is printed, with and
without styles (`Report.lines_render_document`).
-/

namespace ScriptReview

/-! ## Characters of a document -/

/-- The characters of a span, with its style or without. -/
def Span.chars (styled : Bool) (span : Span) : List Char :=
  if styled then Document.spanForTerminal span else span.text.toList

@[simp]
theorem Span.chars_plain (styled : Bool) (text : String) :
    (Span.plain text).chars styled = text.toList := by
  cases styled <;> rfl

/-- Without styles only the text is left. -/
@[simp]
theorem Span.chars_false (span : Span) : span.chars false = span.text.toList := rfl

theorem Style.newline_notMem_start (style : Style) : '\n' ∉ style.start := by
  obtain ⟨bold, color⟩ := style
  rcases color with _ | color
  · cases bold <;> decide
  · cases bold <;> cases color <;> decide

theorem Span.newline_notMem_chars {span : Span} (h : '\n' ∉ span.text.toList) (styled : Bool) :
    '\n' ∉ span.chars styled := by
  cases styled with
  | false => exact h
  | true =>
    obtain ⟨style, text⟩ := span
    cases style with
    | none => exact h
    | some style =>
      have hreset : '\n' ∉ Style.reset := by decide
      simp only [chars, Document.spanForTerminal, if_true, List.mem_append, not_or]
      exact ⟨⟨style.newline_notMem_start, h⟩, hreset⟩

namespace Document

def chars (styled : Bool) (document : Document) : List Char :=
  document.flatMap (Span.chars styled)

theorem toList_render (styled : Bool) (document : Document) :
    (document.render styled).toList = document.chars styled := by
  cases styled with
  | false =>
    rw [render, if_neg Bool.false_ne_true, plainText, String.toList_join, List.flatMap_map]
    rfl
  | true =>
    rw [render, if_pos rfl, forTerminal, String.toList_ofList]
    rfl

@[simp]
theorem chars_nil (styled : Bool) : chars styled [] = [] := rfl

@[simp]
theorem chars_cons (styled : Bool) (span : Span) (document : Document) :
    chars styled (span :: document) = span.chars styled ++ chars styled document := rfl

@[simp]
theorem chars_append (styled : Bool) (front back : Document) :
    chars styled (front ++ back) = chars styled front ++ chars styled back :=
  List.flatMap_append

/-- No line feed is in the document. -/
def IsRow (document : Document) : Prop :=
  ∀ span ∈ document, '\n' ∉ span.text.toList

theorem IsRow.newline_notMem_chars {document : Document} (h : document.IsRow) (styled : Bool) :
    '\n' ∉ document.chars styled := by
  intro hmem
  obtain ⟨span, hspan, hnewline⟩ := List.mem_flatMap.mp hmem
  exact Span.newline_notMem_chars (h span hspan) styled hnewline

/-- The characters of rows, with a line feed after each of them. -/
def rowChars (styled : Bool) (rows : List Document) : List Char :=
  Text.unlines (rows.map (chars styled))

@[simp]
theorem rowChars_nil (styled : Bool) : rowChars styled [] = [] := rfl

@[simp]
theorem rowChars_cons (styled : Bool) (row : Document) (rows : List Document) :
    rowChars styled (row :: rows) = row.chars styled ++ '\n' :: rowChars styled rows := by
  simp [rowChars, Text.unlines]

@[simp]
theorem rowChars_append (styled : Bool) (front back : List Document) :
    rowChars styled (front ++ back) = rowChars styled front ++ rowChars styled back := by
  simp [rowChars, Text.unlines]

end Document

/-! ## Rows of a report -/

namespace Render

/-- An issue takes two rows. -/
def issueRows (issue : Issue) : List Document :=
  [[.plain ("  line " ++ toString issue.line.toNat ++ ": "),
      .boldColored issue.severity.color (issueTag issue),
      .plain (" " ++ issue.message ++ " (" ++ issue.ruleId.name ++ ")")],
    [.plain ("    " ++ issue.code)]]

def issuesRows (found : List Issue) : List Document :=
  [.bold ("Issues (" ++ toString found.length ++ "):")] ::
    if found.isEmpty then [[.colored .green "  ✓ No issues found"]]
    else found.flatMap issueRows

/-- The row that gives a suggestion its number. -/
def titleRow (number : Nat) (suggestion : Suggestion) : Document :=
  [.plain ("  " ++ toString number ++ ". "),
    .colored .cyan ("[" ++ suggestion.category ++ "]"),
    .plain (" " ++ suggestion.title)]

def exampleRow (line : List Char) : Document :=
  [.plain (if line.isEmpty then "" else "       " ++ String.ofList line)]

def suggestionRows (number : Nat) (suggestion : Suggestion) : List Document :=
  titleRow number suggestion :: [.plain ("     " ++ suggestion.description)] :: [] ::
    (Text.displayLines suggestion.exampleCode.toList).map exampleRow

/-- Suggestions are numbered from one. -/
def suggestionsRows (found : List Suggestion) : List Document :=
  [.bold ("Suggestions (" ++ toString found.length ++ "):")] ::
    if found.isEmpty then [[.plain "  No suggestions"]]
    else (found.zipIdx 1).flatMap fun numbered => suggestionRows numbered.2 numbered.1

def metricsRows (metrics : Metrics) : List Document :=
  [[.bold "Metrics:"],
    [.plain ("  Lines of code:   " ++ toString metrics.lines.toNat)],
    [.plain ("  Functions:       " ++ toString metrics.functions.toNat)],
    [.plain ("  Complexity:      " ++ toString metrics.complexity.toNat)],
    [.plain ("  Maintainability: " ++ toString metrics.maintainability.toNat)]]

/-- The rows of the sections that the view shows. -/
def sectionRows (view : View) (report : Report) : List (List Document) :=
  (if view.showsIssues then [issuesRows report.issues] else []) ++
    (if view.showsSuggestions then [suggestionsRows report.suggestions] else []) ++
    if view.showsMetrics then [metricsRows report.metrics] else []

end Render

/-- The texts of the issue are without line feeds. -/
def Issue.IsUnbroken (issue : Issue) : Prop :=
  '\n' ∉ issue.message.toList ∧ '\n' ∉ issue.code.toList

/-- The texts of the suggestion, other than its example, are without line feeds. -/
def Suggestion.IsUnbroken (suggestion : Suggestion) : Prop :=
  '\n' ∉ suggestion.category.toList ∧ '\n' ∉ suggestion.title.toList ∧
    '\n' ∉ suggestion.description.toList

namespace Report

open Render

/-- The rows of a report. An empty row stands between two sections. -/
def rows (view : View) (report : Report) : List Document :=
  [[]].intercalate (sectionRows view report)

/-- Only the example of a suggestion may have more lines than one. -/
structure IsUnbroken (report : Report) : Prop where
  issues : ∀ issue ∈ report.issues, issue.IsUnbroken
  suggestions : ∀ suggestion ∈ report.suggestions, suggestion.IsUnbroken

end Report

/-! ## Printed are the rows -/

namespace Render

variable (styled : Bool)

theorem chars_issue (issue : Issue) :
    (Render.issue issue).chars styled = Document.rowChars styled (issueRows issue) := by
  simp [Render.issue, issueRows]

theorem chars_issues (found : List Issue) :
    (issues found).chars styled = Document.rowChars styled (issuesRows found) := by
  have hissues : Document.chars styled (found.flatMap Render.issue) =
      Document.rowChars styled (found.flatMap issueRows) := by
    induction found with
    | nil => rfl
    | cons issue found ih => simp [chars_issue, ih]
  cases found <;> simp_all [issues, issuesRows, heading]

theorem chars_suggestion (number : Nat) (suggestion : Suggestion) :
    (Render.suggestion number suggestion).chars styled =
      Document.rowChars styled (suggestionRows number suggestion) := by
  have hexample : ∀ lines : List (List Char), Document.chars styled (lines.map exampleLine) =
      Document.rowChars styled (lines.map exampleRow) := by
    intro lines
    induction lines with
    | nil => rfl
    | cons line lines ih =>
      rw [List.map_cons, List.map_cons, Document.chars_cons, Document.rowChars_cons, ih]
      cases line <;> simp [exampleLine, exampleRow]
  simp [Render.suggestion, suggestionRows, titleRow, hexample]

theorem chars_numbered (number : Nat) (found : List Suggestion) :
    (numbered number found).chars styled = Document.rowChars styled
      ((found.zipIdx number).flatMap fun numbered => suggestionRows numbered.2 numbered.1) := by
  induction found generalizing number with
  | nil => rfl
  | cons first more ih =>
    rw [numbered, Document.chars_append, chars_suggestion, ih, ← Document.rowChars_append]
    rfl

theorem chars_suggestions (found : List Suggestion) :
    (suggestions found).chars styled = Document.rowChars styled (suggestionsRows found) := by
  cases found <;> simp [suggestions, suggestionsRows, heading, chars_numbered]

theorem chars_metrics (metrics : Metrics) :
    (Render.metrics metrics).chars styled = Document.rowChars styled (metricsRows metrics) := by
  simp [Render.metrics, metricsRows, heading]

end Render

/-! ## Rows without line feeds -/

namespace Render

open Document

theorem notMem_name {c : Char} (h : isRuleIdChar c = false) (id : RuleId) :
    c ∉ id.name.toList := by
  intro hmem
  have hid := id.isRuleId_name
  rw [isRuleId, Bool.and_eq_true] at hid
  rw [List.all_eq_true.mp hid.2 c hmem] at h
  cases h

theorem newline_notMem_name (id : RuleId) : '\n' ∉ id.name.toList :=
  notMem_name (by decide) id

theorem newline_notMem_issueTag (issue : Issue) : '\n' ∉ (issueTag issue).toList := by
  rw [issueTag]
  cases issue.kind <;> cases issue.severity <;> decide

variable {row : Document}

theorem isRow_of_mem_issueRows {issue : Issue} (h : issue.IsUnbroken)
    (hrow : row ∈ issueRows issue) : row.IsRow := by
  simp only [issueRows, List.mem_cons, List.not_mem_nil, or_false] at hrow
  rcases hrow with rfl | rfl
  · simp [IsRow, Span.plain, Span.boldColored, Text.newline_notMem_toDigits, newline_notMem_name,
      newline_notMem_issueTag, h.1]
  · simp [IsRow, Span.plain, h.2]

theorem isRow_of_mem_issuesRows {found : List Issue} (h : ∀ issue ∈ found, issue.IsUnbroken)
    (hrow : row ∈ issuesRows found) : row.IsRow := by
  rcases List.mem_cons.mp hrow with rfl | hrow
  · simp [IsRow, Span.bold, Text.newline_notMem_toDigits]
  · split at hrow
    · rw [List.mem_singleton] at hrow
      simp [hrow, IsRow, Span.colored]
    · obtain ⟨issue, hissue, hrow⟩ := List.mem_flatMap.mp hrow
      exact isRow_of_mem_issueRows (h issue hissue) hrow

/-- What a terminal shows as a line is a part of a line. -/
theorem exists_isInfix_of_mem_displayLines {text line : List Char}
    (h : line ∈ Text.displayLines text) : ∃ original ∈ Text.lines text, line <:+: original := by
  have hended : ∀ ended ∈ (Text.lines text).dropLast.map Text.dropCarriageReturn,
      ∃ original ∈ Text.lines text, ended <:+: original := by
    intro ended hmem
    obtain ⟨original, horiginal, rfl⟩ := List.mem_map.mp hmem
    refine ⟨original, List.dropLast_subset _ horiginal, ?_⟩
    rw [Text.dropCarriageReturn]
    split
    · exact (List.dropLast_prefix original).isInfix
    · exact List.infix_rfl
  simp only [Text.displayLines] at h
  split at h
  next c rest hlast =>
    rcases List.mem_append.mp h with hmem | hmem
    · exact hended line hmem
    · rw [List.mem_singleton.mp hmem]
      exact ⟨_, List.mem_of_getLast? hlast, List.infix_rfl⟩
  next => exact hended line h

theorem newline_notMem_of_mem_displayLines {text line : List Char}
    (h : line ∈ Text.displayLines text) : '\n' ∉ line := by
  obtain ⟨original, horiginal, hpart⟩ := exists_isInfix_of_mem_displayLines h
  exact fun hmem => Text.newline_notMem_of_mem_lines horiginal (hpart.subset hmem)

theorem mem_of_mem_displayLines {text line : List Char} (h : line ∈ Text.displayLines text)
    {c : Char} (hc : c ∈ line) : c ∈ text := by
  obtain ⟨original, horiginal, hpart⟩ := exists_isInfix_of_mem_displayLines h
  exact (Text.infix_of_mem_lines horiginal).subset (hpart.subset hc)

theorem isRow_of_mem_suggestionRows {number : Nat} {suggestion : Suggestion}
    (h : suggestion.IsUnbroken) (hrow : row ∈ suggestionRows number suggestion) : row.IsRow := by
  obtain ⟨hcategory, htitle, hdescription⟩ := h
  simp only [suggestionRows, List.mem_cons, List.mem_map] at hrow
  rcases hrow with rfl | rfl | rfl | ⟨line, hline, rfl⟩
  · simp [titleRow, IsRow, Span.plain, Span.colored, Text.newline_notMem_toDigits, hcategory,
      htitle]
  · simp [IsRow, Span.plain, hdescription]
  · simp [IsRow]
  · have hnewline := newline_notMem_of_mem_displayLines hline
    cases line <;> simp_all [exampleRow, IsRow, Span.plain]

theorem isRow_of_mem_suggestionsRows {found : List Suggestion}
    (h : ∀ suggestion ∈ found, suggestion.IsUnbroken)
    (hrow : row ∈ suggestionsRows found) : row.IsRow := by
  rcases List.mem_cons.mp hrow with rfl | hrow
  · simp [IsRow, Span.bold, Text.newline_notMem_toDigits]
  · split at hrow
    · rw [List.mem_singleton] at hrow
      simp [hrow, IsRow, Span.plain]
    · obtain ⟨numbered, hnumbered, hrow⟩ := List.mem_flatMap.mp hrow
      exact isRow_of_mem_suggestionRows (h _ (List.fst_mem_of_mem_zipIdx hnumbered)) hrow

theorem isRow_of_mem_metricsRows {metrics : Metrics} (hrow : row ∈ metricsRows metrics) :
    row.IsRow := by
  simp only [metricsRows, List.mem_cons, List.not_mem_nil, or_false] at hrow
  rcases hrow with rfl | rfl | rfl | rfl | rfl <;>
    simp [IsRow, Span.bold, Span.plain, Text.newline_notMem_toDigits]

end Render

/-! ## The whole report -/

namespace Report

open Render

variable {report : Report}

/-- A row belongs to a section, or it is an empty one between two sections. -/
theorem mem_rows_or_eq_nil {view : View} {row : Document} (h : row ∈ report.rows view) :
    row = [] ∨ ∃ part ∈ sectionRows view report, row ∈ part := by
  cases view <;>
    simp_all [rows, sectionRows, List.intercalate, View.showsIssues, View.showsSuggestions,
      View.showsMetrics]
  tauto

theorem mem_rows {view : View} {part : List Document} (hpart : part ∈ sectionRows view report)
    {row : Document} (hrow : row ∈ part) : row ∈ report.rows view := by
  cases view <;>
    simp_all [rows, sectionRows, List.intercalate, View.showsIssues, View.showsSuggestions,
      View.showsMetrics]
  rcases hpart with rfl | rfl | rfl <;> simp [hrow]

theorem chars_document (view : View) (styled : Bool) (report : Report) :
    (report.document view).chars styled = Document.rowChars styled (report.rows view) := by
  cases view <;>
    simp [document, rows, sections, sectionRows, View.showsIssues, View.showsSuggestions,
      View.showsMetrics, List.intercalate, chars_issues, chars_suggestions, chars_metrics]

theorem IsUnbroken.isRow_of_mem_rows (h : report.IsUnbroken) {view : View} {row : Document}
    (hrow : row ∈ report.rows view) : row.IsRow := by
  rcases mem_rows_or_eq_nil hrow with rfl | ⟨part, hpart, hrow⟩
  · intro span hspan
    cases hspan
  · simp only [sectionRows, List.mem_append, List.mem_ite_nil_right, List.mem_singleton] at hpart
    rcases hpart with (⟨-, rfl⟩ | ⟨-, rfl⟩) | ⟨-, rfl⟩
    · exact isRow_of_mem_issuesRows h.issues hrow
    · exact isRow_of_mem_suggestionsRows h.suggestions hrow
    · exact isRow_of_mem_metricsRows hrow

/-- The lines of a printed report are its rows, but for the last line, which is empty. -/
theorem lines_render_document (h : report.IsUnbroken) (view : View) (styled : Bool) :
    Text.lines ((report.document view).render styled).toList =
      (report.rows view).map (Document.chars styled) ++ [[]] := by
  rw [Document.toList_render, chars_document, Document.rowChars, Text.lines_unlines]
  intro row hrow
  obtain ⟨document, hdocument, rfl⟩ := List.mem_map.mp hrow
  exact (h.isRow_of_mem_rows hdocument).newline_notMem_chars styled

end Report

end ScriptReview
