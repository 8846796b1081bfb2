import ScriptReview.Proofs.Render.Terminal

/-!
What stands out in a report.

With styles a report has the same text as without them, with sequences in between, and a terminal
shows headings, tags of issues, categories of suggestions and the line that there are no issues in
their styles, and nothing else (`Report.render_styled`). Behind each of them the text goes on in no
style: every styled span of a report is followed by a plain one (`Report.isSpaced_document`).
-/

namespace ScriptReview

namespace Terminal

/-- The character is shown in no style. -/
def isNormal (cell : Char × Style) : Bool :=
  cell.2 = Style.normal

/-- The characters that are shown in some style, in runs that go on as long as they can. -/
def highlights (cells : List (Char × Style)) : List (List (Char × Style)) :=
  (cells.splitOnP isNormal).filter fun run => !run.isEmpty

theorem highlights_cons_of_normal {cell : Char × Style} (h : isNormal cell = true)
    (later : List (Char × Style)) : highlights (cell :: later) = highlights later := by
  have hsplit := List.splitOnP_append_cons [] later h
  rw [List.nil_append] at hsplit
  rw [highlights, hsplit, List.splitOnP_nil]
  rfl

theorem highlights_append_of_normal {front : List (Char × Style)}
    (h : ∀ cell ∈ front, isNormal cell = true) (later : List (Char × Style)) :
    highlights (front ++ later) = highlights later := by
  induction front with
  | nil => rfl
  | cons cell front ih =>
    rw [List.cons_append, highlights_cons_of_normal (h cell List.mem_cons_self),
      ih fun other hother => h other (List.mem_cons_of_mem cell hother)]

/-- A run ends where something is shown in no style. -/
theorem highlights_run_append {run front : List (Char × Style)} (hrun : run ≠ [])
    (hstyled : ∀ cell ∈ run, isNormal cell = false) (hfront : front ≠ [])
    (hnormal : ∀ cell ∈ front, isNormal cell = true) (later : List (Char × Style)) :
    highlights (run ++ (front ++ later)) = run :: highlights later := by
  have hkept : [run].filter (fun run => !run.isEmpty) = [run] := by
    rw [List.filter_singleton, List.isEmpty_eq_false_iff.mpr hrun]
    rfl
  cases front with
  | nil => exact absurd rfl hfront
  | cons cell front =>
    obtain ⟨hcell, hrest⟩ := List.forall_mem_cons.mp hnormal
    rw [List.cons_append, highlights, List.splitOnP_append_cons run _ hcell,
      List.splitOnP_eq_singleton hstyled, List.filter_append, hkept]
    exact congrArg _ (highlights_append_of_normal hrest later)

end Terminal

/-! ## Documents -/

namespace Document

/-- The spans with a style. -/
def emphasized (document : Document) : List Span :=
  document.filter (·.style.isSome)

/-- Every span with a style has some text and stands before a plain span with some text. -/
inductive IsSpaced : Document → Prop where
  | nil : IsSpaced []
  | plain {text : String} {later : Document} (h : IsSpaced later) :
    IsSpaced (Span.plain text :: later)
  | styled {style : Style} {text next : String} {later : Document} (hstyle : style ≠ Style.normal)
    (htext : text.toList ≠ []) (hnext : next.toList ≠ []) (h : IsSpaced later) :
    IsSpaced (⟨some style, text⟩ :: Span.plain next :: later)

theorem isNormal_of_mem_cells_plain {text : String} :
    ∀ cell ∈ (Span.plain text).cells, Terminal.isNormal cell = true := by
  intro cell hcell
  obtain ⟨c, -, rfl⟩ := List.mem_map.mp hcell
  rfl

/-- The runs that stand out in a document are its spans with a style. -/
theorem highlights_cells {document : Document} (h : document.IsSpaced) :
    Terminal.highlights (document.flatMap Span.cells) = document.emphasized.map Span.cells := by
  induction h with
  | nil => rfl
  | plain _ ih =>
    rw [List.flatMap_cons, Terminal.highlights_append_of_normal isNormal_of_mem_cells_plain, ih]
    rfl
  | @styled style text next later hstyle htext hnext _ ih =>
    have hrun : ∀ cell ∈ Span.cells ⟨some style, text⟩, Terminal.isNormal cell = false := by
      intro cell hcell
      obtain ⟨c, -, rfl⟩ := List.mem_map.mp hcell
      exact decide_eq_false hstyle
    have hne : Span.cells ⟨some style, text⟩ ≠ [] := by
      rwa [Ne, Span.cells, List.map_eq_nil_iff]
    have hplain : (Span.plain next).cells ≠ [] := by
      rwa [Ne, Span.cells, List.map_eq_nil_iff]
    rw [List.flatMap_cons, List.flatMap_cons,
      Terminal.highlights_run_append hne hrun hplain isNormal_of_mem_cells_plain, ih]
    rfl

theorem IsSpaced.append {front back : Document} (hfront : front.IsSpaced)
    (hback : back.IsSpaced) : IsSpaced (front ++ back) := by
  induction hfront with
  | nil => exact hback
  | plain _ ih => exact .plain ih
  | styled hstyle htext hnext _ ih => exact .styled hstyle htext hnext ih

theorem IsSpaced.flatMap {α : Type} {write : α → Document} {found : List α}
    (h : ∀ item ∈ found, (write item).IsSpaced) : IsSpaced (found.flatMap write) := by
  induction found with
  | nil => exact .nil
  | cons item found ih =>
    rw [List.flatMap_cons]
    exact (h item List.mem_cons_self).append
      (ih fun later hlater => h later (List.mem_cons_of_mem item hlater))

theorem emphasized_append (front back : Document) :
    emphasized (front ++ back) = emphasized front ++ emphasized back :=
  List.filter_append front back

theorem IsEscapeFree.append {front back : Document} (hfront : front.IsEscapeFree)
    (hback : back.IsEscapeFree) : IsEscapeFree (front ++ back) :=
  List.forall_mem_append.mpr ⟨hfront, hback⟩

theorem IsEscapeFree.flatMap {α : Type} {write : α → Document} {found : List α}
    (h : ∀ item ∈ found, (write item).IsEscapeFree) : IsEscapeFree (found.flatMap write) := by
  intro span hspan
  obtain ⟨item, hitem, hmem⟩ := List.mem_flatMap.mp hspan
  exact h item hitem span hmem

end Document

/-! ## Reports -/

/-- No text of the report has an escape character in it. An identifier cannot have one. -/
structure Report.IsEscapeFree (report : Report) : Prop where
  issues : ∀ issue ∈ report.issues, escape ∉ issue.message.toList ∧ escape ∉ issue.code.toList
  suggestions : ∀ suggestion ∈ report.suggestions,
    escape ∉ suggestion.category.toList ∧ escape ∉ suggestion.title.toList ∧
      escape ∉ suggestion.description.toList ∧ escape ∉ suggestion.exampleCode.toList

/-- What stands out in a report under a view. Headings are bold. The tag of an issue is bold in the
color of its severity, the category of a suggestion is cyan, and if there are no issues it says so
in green. -/
def Report.emphasis (view : View) (report : Report) : List Span :=
  (if view.showsIssues then
    Span.bold ("Issues (" ++ toString report.issues.length ++ "):") ::
      if report.issues.isEmpty then [Span.colored .green "  ✓ No issues found"]
      else report.issues.map fun issue =>
        Span.boldColored issue.severity.color
          (issue.kind.name ++ " [" ++ issue.severity.name ++ "]")
  else []) ++
    (if view.showsSuggestions then
      Span.bold ("Suggestions (" ++ toString report.suggestions.length ++ "):") ::
        report.suggestions.map fun suggestion =>
          Span.colored .cyan ("[" ++ suggestion.category ++ "]")
    else []) ++
    if view.showsMetrics then [Span.bold "Metrics:"] else []

namespace Render

open Document

/-! ## Plain text behind every span with a style -/

theorem isSpaced_heading {text : String} (h : text.toList ≠ []) : (heading text).IsSpaced :=
  .styled (by decide) h (by decide) .nil

theorem isSpaced_issue (issue : Issue) : (Render.issue issue).IsSpaced := by
  have hstyle : (⟨true, some issue.severity.color⟩ : Style) ≠ Style.normal := by
    cases issue.severity <;> decide
  exact .plain (.styled hstyle (by simp [issueTag]) (by simp) (.plain .nil))

theorem isSpaced_issues (found : List Issue) : (issues found).IsSpaced := by
  refine (isSpaced_heading (by simp)).append ?_
  split
  · exact .styled (by decide) (by decide) (by decide) .nil
  · exact .flatMap fun issue _ => isSpaced_issue issue

theorem isSpaced_suggestion (number : Nat) (suggestion : Suggestion) :
    (Render.suggestion number suggestion).IsSpaced := by
  have hexample : ∀ lines : List (List Char), IsSpaced (lines.map exampleLine) := by
    intro lines
    induction lines with
    | nil => exact .nil
    | cons line later ih => exact .plain ih
  refine IsSpaced.append ?_ (hexample _)
  exact .plain (.styled (by decide) (by simp) (by simp) (.plain .nil))

theorem isSpaced_numbered (number : Nat) (found : List Suggestion) :
    (numbered number found).IsSpaced := by
  induction found generalizing number with
  | nil => exact .nil
  | cons first more ih => exact (isSpaced_suggestion number first).append (ih (number + 1))

theorem isSpaced_suggestions (found : List Suggestion) : (suggestions found).IsSpaced := by
  refine (isSpaced_heading (by simp)).append ?_
  split
  · exact .plain .nil
  · exact isSpaced_numbered 1 found

theorem isSpaced_metrics (metrics : Metrics) : (Render.metrics metrics).IsSpaced :=
  (isSpaced_heading (by decide)).append (.plain (.plain (.plain (.plain .nil))))

/-! ## Spans with a style -/

theorem emphasized_issues (found : List Issue) :
    emphasized (issues found) =
      Span.bold ("Issues (" ++ toString found.length ++ "):") ::
        if found.isEmpty then [Span.colored .green "  ✓ No issues found"]
        else found.map fun issue => Span.boldColored issue.severity.color (issueTag issue) := by
  have htags : emphasized (found.flatMap Render.issue) =
      found.map fun issue => Span.boldColored issue.severity.color (issueTag issue) := by
    induction found with
    | nil => rfl
    | cons issue found ih =>
      rw [List.flatMap_cons, emphasized_append, ih]
      rfl
  rw [issues, emphasized_append, apply_ite emphasized, htags]
  rfl

theorem emphasized_suggestion (number : Nat) (suggestion : Suggestion) :
    emphasized (Render.suggestion number suggestion) =
      [Span.colored .cyan ("[" ++ suggestion.category ++ "]")] := by
  have hexample : ∀ lines : List (List Char), emphasized (lines.map exampleLine) = [] := by
    intro lines
    refine List.filter_eq_nil_iff.mpr fun span hspan => ?_
    obtain ⟨line, -, rfl⟩ := List.mem_map.mp hspan
    exact Bool.false_ne_true
  rw [Render.suggestion, emphasized_append, hexample]
  rfl

theorem emphasized_numbered (number : Nat) (found : List Suggestion) :
    emphasized (numbered number found) =
      found.map fun suggestion => Span.colored .cyan ("[" ++ suggestion.category ++ "]") := by
  induction found generalizing number with
  | nil => rfl
  | cons first more ih =>
    rw [numbered, emphasized_append, emphasized_suggestion, ih]
    rfl

theorem emphasized_suggestions (found : List Suggestion) :
    emphasized (suggestions found) =
      Span.bold ("Suggestions (" ++ toString found.length ++ "):") ::
        found.map fun suggestion => Span.colored .cyan ("[" ++ suggestion.category ++ "]") := by
  rw [suggestions, emphasized_append]
  cases found with
  | nil => rfl
  | cons first more => exact congrArg _ (emphasized_numbered 1 (first :: more))

/-! ## Texts without escape characters -/

theorem escape_notMem_toDigits (n : Nat) : '\x1b' ∉ Nat.toDigits 10 n := fun h =>
  absurd (Text.isDigit_of_mem_toDigits h) (by decide)

theorem isEscapeFree_heading {text : String} (h : escape ∉ text.toList) :
    (heading text).IsEscapeFree :=
  List.forall_mem_cons.mpr ⟨h, List.forall_mem_singleton.mpr (by decide)⟩

theorem isEscapeFree_countHeading (label : String) (h : escape ∉ label.toList) (count : Nat) :
    (heading (label ++ toString count ++ "):")).IsEscapeFree := by
  have hlabel : '\x1b' ∉ label.toList := h
  refine isEscapeFree_heading ?_
  simp [escape, hlabel, escape_notMem_toDigits]

theorem isEscapeFree_issue {issue : Issue}
    (h : escape ∉ issue.message.toList ∧ escape ∉ issue.code.toList) :
    (Render.issue issue).IsEscapeFree := by
  obtain ⟨hmessage, hcode⟩ : '\x1b' ∉ issue.message.toList ∧ '\x1b' ∉ issue.code.toList := h
  have htag : '\x1b' ∉ (issueTag issue).toList := by
    rw [issueTag]
    cases issue.kind <;> cases issue.severity <;> decide
  have hid : '\x1b' ∉ issue.ruleId.name.toList := notMem_name (by decide) issue.ruleId
  simp [Render.issue, IsEscapeFree, escape, Span.plain, Span.boldColored, escape_notMem_toDigits,
    htag, hid, hmessage, hcode]

theorem isEscapeFree_issues {found : List Issue}
    (h : ∀ issue ∈ found, (Render.issue issue).IsEscapeFree) : (issues found).IsEscapeFree := by
  refine (isEscapeFree_countHeading "Issues (" (by decide) found.length).append ?_
  split
  · exact List.forall_mem_cons.mpr ⟨by decide, List.forall_mem_singleton.mpr (by decide)⟩
  · exact .flatMap h

theorem isEscapeFree_exampleLine {text line : List Char} (h : '\x1b' ∉ text)
    (hline : line ∈ Text.displayLines text) : '\x1b' ∉ (exampleLine line).text.toList := by
  have hescape : '\x1b' ∉ line := fun hmem => h (mem_of_mem_displayLines hline hmem)
  cases line with
  | nil => decide
  | cons c line =>
    rw [List.mem_cons, not_or] at hescape
    simp [exampleLine, Span.plain, hescape]

theorem isEscapeFree_suggestion (number : Nat) {suggestion : Suggestion}
    (h : escape ∉ suggestion.category.toList ∧ escape ∉ suggestion.title.toList ∧
      escape ∉ suggestion.description.toList ∧ escape ∉ suggestion.exampleCode.toList) :
    (Render.suggestion number suggestion).IsEscapeFree := by
  obtain ⟨hcategory, htitle, hdescription, hexample⟩ : '\x1b' ∉ suggestion.category.toList ∧
    '\x1b' ∉ suggestion.title.toList ∧ '\x1b' ∉ suggestion.description.toList ∧
      '\x1b' ∉ suggestion.exampleCode.toList := h
  refine IsEscapeFree.append ?_ fun span hspan => ?_
  · simp [IsEscapeFree, escape, Span.plain, Span.colored, escape_notMem_toDigits, hcategory, htitle,
      hdescription]
  · obtain ⟨line, hline, rfl⟩ := List.mem_map.mp hspan
    exact isEscapeFree_exampleLine hexample hline

theorem isEscapeFree_numbered (number : Nat) {found : List Suggestion}
    (h : ∀ suggestion ∈ found, ∀ number, (Render.suggestion number suggestion).IsEscapeFree) :
    (numbered number found).IsEscapeFree := by
  induction found generalizing number with
  | nil => exact List.forall_mem_nil _
  | cons first more ih =>
    obtain ⟨hfirst, hmore⟩ := List.forall_mem_cons.mp h
    exact (hfirst number).append (ih (number + 1) hmore)

theorem isEscapeFree_suggestions {found : List Suggestion}
    (h : ∀ suggestion ∈ found, ∀ number, (Render.suggestion number suggestion).IsEscapeFree) :
    (suggestions found).IsEscapeFree := by
  refine (isEscapeFree_countHeading "Suggestions (" (by decide) found.length).append ?_
  split
  · exact List.forall_mem_singleton.mpr (by decide)
  · exact isEscapeFree_numbered 1 h

theorem isEscapeFree_metrics (metrics : Metrics) : (Render.metrics metrics).IsEscapeFree := by
  refine (isEscapeFree_heading (by decide)).append ?_
  simp [IsEscapeFree, escape, Span.plain, escape_notMem_toDigits]

end Render

/-! ## Whole reports -/

namespace Report

open Render

theorem document_eq (view : View) (report : Report) :
    report.document view =
      match view with
      | .all =>
        Render.issues report.issues ++ Span.plain "\n" ::
          (Render.suggestions report.suggestions ++ Span.plain "\n" ::
            Render.metrics report.metrics)
      | .issues => Render.issues report.issues
      | .suggestions => Render.suggestions report.suggestions
      | .metrics => Render.metrics report.metrics := by
  cases view <;>
    simp [document, sections, View.showsIssues, View.showsSuggestions, View.showsMetrics,
      List.intercalate]

theorem isSpaced_document (view : View) (report : Report) : (report.document view).IsSpaced := by
  rw [document_eq]
  cases view with
  | all =>
    exact (isSpaced_issues _).append
      (.plain ((isSpaced_suggestions _).append (.plain (isSpaced_metrics _))))
  | issues => exact isSpaced_issues report.issues
  | suggestions => exact isSpaced_suggestions report.suggestions
  | metrics => exact isSpaced_metrics report.metrics

theorem emphasized_document (view : View) (report : Report) :
    (report.document view).emphasized = report.emphasis view := by
  have hmetrics : Document.emphasized (Render.metrics report.metrics) =
      [Span.bold "Metrics:"] := rfl
  have hbetween : ∀ later, Document.emphasized (Span.plain "\n" :: later) =
      Document.emphasized later := fun _ => rfl
  rw [document_eq]
  cases view <;>
    simp [emphasis, View.showsIssues, View.showsSuggestions, View.showsMetrics, hmetrics, hbetween,
      Document.emphasized_append, emphasized_issues, emphasized_suggestions, issueTag]

theorem IsEscapeFree.document {report : Report} (h : report.IsEscapeFree) (view : View) :
    (report.document view).IsEscapeFree := by
  have hissues := isEscapeFree_issues fun issue hissue =>
    isEscapeFree_issue (h.issues issue hissue)
  have hsuggestions := isEscapeFree_suggestions fun suggestion hsuggestion number =>
    isEscapeFree_suggestion number (h.suggestions suggestion hsuggestion)
  have hmetrics := isEscapeFree_metrics report.metrics
  have hbetween : escape ∉ (Span.plain "\n").text.toList := by decide
  rw [document_eq]
  cases view with
  | all =>
    exact hissues.append (List.forall_mem_cons.mpr ⟨hbetween,
      hsuggestions.append (List.forall_mem_cons.mpr ⟨hbetween, hmetrics⟩)⟩)
  | issues => exact hissues
  | suggestions => exact hsuggestions
  | metrics => exact hmetrics

/-- A report with styles is the report without them once its sequences are deleted. On a terminal
each span is shown in its style, and what stands out, in runs that end where text in no style
begins, is what the emphasis of the report says. In the end no style is on. -/
theorem render_styled {report : Report} (h : report.IsEscapeFree) (view : View) :
    Terminal.withoutSequences ((report.document view).render true).toList =
        ((report.document view).render false).toList ∧
      Terminal.shown ((report.document view).render true).toList =
        (report.document view).flatMap Span.cells ∧
      Terminal.highlights (Terminal.shown ((report.document view).render true).toList) =
        (report.emphasis view).map Span.cells ∧
      Terminal.lastStyle ((report.document view).render true).toList = Style.normal := by
  have hfree := h.document view
  have hstyled : (report.document view).render true = (report.document view).forTerminal := rfl
  have hplain : (report.document view).render false = (report.document view).plainText := rfl
  have hshown := Document.shown_forTerminal hfree
  rw [hstyled, hplain]
  refine ⟨Document.withoutSequences_forTerminal hfree, hshown, ?_,
    Document.lastStyle_forTerminal hfree⟩
  rw [hshown, Document.highlights_cells (isSpaced_document view report), emphasized_document]

/-- A report with texts that look like sequences but for the escape character. -/
def bracketReport : Report where
  issues :=
    [{ ruleId := ⟨"mark", by decide⟩
       kind := .info
       line := Count.clamp 3
       message := "[0m"
       code := "a[1m"
       severity := .high }]
  suggestions := [⟨"Style", "31m", "[32m", "b\r\n\nc"⟩]
  metrics := ⟨Count.clamp 3, Count.zero, Count.zero, Count.clamp 85⟩

theorem render_styled_brackets :
    bracketReport.IsEscapeFree ∧
      (Terminal.highlights
          (Terminal.shown ((bracketReport.document .all).render true).toList)).map
          (fun run => (String.ofList (run.map Prod.fst), run.head?.map Prod.snd)) =
        [("Issues (1):", some ⟨true, none⟩), ("info [high]", some ⟨true, some .red⟩),
          ("Suggestions (1):", some ⟨true, none⟩), ("[Style]", some ⟨false, some .cyan⟩),
          ("Metrics:", some ⟨true, none⟩)] ∧
      Terminal.lastStyle ((bracketReport.document .all).render true).toList = Style.normal := by
  have hfree : bracketReport.IsEscapeFree := ⟨by decide, by decide⟩
  obtain ⟨-, -, hhighlights, hlast⟩ := render_styled hfree .all
  refine ⟨hfree, ?_, hlast⟩
  rw [hhighlights]
  decide

end Report
end ScriptReview
