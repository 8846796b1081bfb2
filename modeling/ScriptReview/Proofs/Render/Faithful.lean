import ScriptReview.Proofs.Render.Rows
import ScriptReview.Proofs.Scan.Sources

/-!
Printed reports tell reports apart.

A report quotes lines of the text without marking them as quoted, so that a line may look like a
heading or like another issue. The printed text determines the report all the same
(`Registry.document_scan_injective`): the headings say how many issues and suggestions there are, an
issue takes two rows, and a suggestion as many as its title calls for.
-/

namespace ScriptReview

/-! ## Reports of built-in rules are printed in rows -/

theorem Issue.IsBuiltin.isUnbroken {issue : Issue} (h : issue.IsBuiltin) : issue.IsUnbroken := by
  obtain ⟨rule, hrule, number, code, hcode, rfl⟩ := h
  have hmessage : '\n' ∉ rule.message.toList := by
    simp only [Builtin.lineRules, List.mem_cons, List.not_mem_nil, or_false] at hrule
    rcases hrule with rfl | rfl | rfl <;> decide
  exact ⟨hmessage, by simpa [LineRule.issueOn] using hcode⟩

theorem Suggestion.IsBuiltin.isUnbroken {suggestion : Suggestion} (h : suggestion.IsBuiltin) :
    suggestion.IsUnbroken := by
  obtain ⟨template, htemplate, rfl⟩ := h
  simp only [Builtin.templates, List.mem_cons, List.not_mem_nil, or_false] at htemplate
  rcases htemplate with rfl | rfl <;> exact ⟨by decide, by decide, by decide⟩

theorem Report.IsBuiltin.isUnbroken {report : Report} (h : report.IsBuiltin) : report.IsUnbroken :=
  ⟨fun issue hissue => (h.issues issue hissue).isUnbroken,
    fun suggestion hsuggestion => (h.suggestions suggestion hsuggestion).isUnbroken⟩

/-- Equally many items are the same if what is written of each tells which one it is and where it
ends. -/
theorem flatMap_append_inj {α β : Type} {IsItem : α → Prop} {write : α → List β}
    (hwrite : ∀ {rest rest' : List β} {a b : α}, IsItem a → IsItem b →
      write a ++ rest = write b ++ rest' → a = b ∧ rest = rest')
    {found found' : List α} (hfound : ∀ a ∈ found, IsItem a) (hfound' : ∀ a ∈ found', IsItem a)
    (hlength : found.length = found'.length) {rest rest' : List β}
    (h : found.flatMap write ++ rest = found'.flatMap write ++ rest') :
    found = found' ∧ rest = rest' := by
  induction found generalizing found' with
  | nil =>
    obtain rfl := List.length_eq_zero_iff.mp hlength.symm
    exact ⟨rfl, h⟩
  | cons first more ih =>
    cases found' with
    | nil => cases hlength
    | cons first' more' =>
      rw [List.flatMap_cons, List.flatMap_cons, List.append_assoc, List.append_assoc] at h
      obtain ⟨rfl, hlater⟩ := hwrite (hfound first List.mem_cons_self)
        (hfound' first' List.mem_cons_self) h
      obtain ⟨rfl, hrest⟩ := ih (fun a ha => hfound a (List.mem_cons_of_mem _ ha))
        (fun a ha => hfound' a (List.mem_cons_of_mem _ ha)) (Nat.succ.inj hlength) hlater
      exact ⟨rfl, hrest⟩

namespace Render

open Text

variable {rest rest' : List (List Char)}

/-- The rows without styles. -/
def plainRows (rows : List Document) : List (List Char) :=
  rows.map (Document.chars false)

theorem plainRows_cons (row : Document) (rows : List Document) :
    plainRows (row :: rows) = row.chars false :: plainRows rows := rfl

theorem plainRows_flatMap {α : Type} (rows : α → List Document) (found : List α) :
    plainRows (found.flatMap rows) = found.flatMap fun item => plainRows (rows item) :=
  List.map_flatMap

/-- A heading determines the number in it. -/
theorem eq_of_heading (label : String) {m n : Nat}
    (h : Document.chars false [.bold (label ++ toString m ++ "):")] =
      Document.chars false [.bold (label ++ toString n ++ "):")]) : m = n := by
  have hdigits : Nat.toDigits 10 m ++ [')', ':'] = Nat.toDigits 10 n ++ [')', ':'] := by
    simpa [Span.bold] using h
  have hend : ∀ c ∈ [')', ':'].head?, isDigit c = false := isDigit_of_mem_head? (by decide) _
  exact (toDigits_append_inj hend hend hdigits).1

/-! ## Issues -/

/-- What the first row of an issue says after the number of the line. -/
def ruleText (rule : LineRule) : List Char :=
  (": " ++ rule.kind.name ++ " [" ++ rule.severity.name ++ "] " ++ rule.message ++ " (" ++
    rule.id.name ++ ")").toList

theorem plainRows_issueRows (rule : LineRule) (number : Count) (code : List Char) :
    plainRows (issueRows (rule.issueOn number code)) =
      ["  line ".toList ++ (Nat.toDigits 10 number.toNat ++ ruleText rule),
        "    ".toList ++ code] := by
  simp [plainRows, issueRows, LineRule.issueOn, issueTag, ruleText, Span.boldColored]

theorem isDigit_of_mem_head?_ruleText (rule : LineRule) :
    ∀ c ∈ (ruleText rule).head?, isDigit c = false := by
  simp only [ruleText, String.toList_append, List.append_assoc]
  exact isDigit_of_mem_head? (by decide) _

theorem eq_of_ruleText {rule rule' : LineRule} (hrule : rule ∈ Builtin.lineRules)
    (hrule' : rule' ∈ Builtin.lineRules) (h : ruleText rule = ruleText rule') : rule = rule' := by
  simp only [Builtin.lineRules, List.mem_cons, List.not_mem_nil, or_false] at hrule hrule'
  rcases hrule with rfl | rfl | rfl <;> rcases hrule' with rfl | rfl | rfl <;>
    first
    | rfl
    | simp [ruleText, Builtin.varUsage, Builtin.looseEquality, Builtin.missingSemicolon,
        IssueKind.name, Severity.name] at h

/-- The rows of an issue determine the issue, and there are always two of them. -/
theorem issueRows_inj {issue issue' : Issue} (hissue : issue.IsBuiltin) (hissue' : issue'.IsBuiltin)
    (h : plainRows (issueRows issue) ++ rest = plainRows (issueRows issue') ++ rest') :
    issue = issue' ∧ rest = rest' := by
  obtain ⟨rule, hrule, number, code, -, rfl⟩ := hissue
  obtain ⟨rule', hrule', number', code', -, rfl⟩ := hissue'
  rw [plainRows_issueRows, plainRows_issueRows] at h
  obtain ⟨hfirst, h⟩ := List.cons.inj h
  obtain ⟨hsecond, hrest⟩ := List.cons.inj h
  obtain ⟨hnumber, htext⟩ := toDigits_append_inj (isDigit_of_mem_head?_ruleText rule)
    (isDigit_of_mem_head?_ruleText rule') (List.append_cancel_left hfirst)
  obtain rfl := eq_of_ruleText hrule hrule' htext
  obtain rfl := Count.ext hnumber
  obtain rfl := List.append_cancel_left hsecond
  exact ⟨rfl, hrest⟩

/-- The section on issues ends where its heading says it does. -/
theorem issuesRows_inj {found found' : List Issue} (hfound : ∀ issue ∈ found, issue.IsBuiltin)
    (hfound' : ∀ issue ∈ found', issue.IsBuiltin)
    (h : plainRows (issuesRows found) ++ rest = plainRows (issuesRows found') ++ rest') :
    found = found' ∧ rest = rest' := by
  rw [issuesRows, issuesRows, plainRows_cons, plainRows_cons, List.cons_append, List.cons_append,
    List.cons.injEq] at h
  obtain ⟨hheading, h⟩ := h
  have hlength : found.length = found'.length := eq_of_heading "Issues (" hheading
  cases found with
  | nil =>
    obtain rfl := List.length_eq_zero_iff.mp hlength.symm
    exact ⟨rfl, List.append_cancel_left h⟩
  | cons issue found =>
    cases found' with
    | nil => cases hlength
    | cons issue' found' =>
      simp only [List.isEmpty_cons, Bool.false_eq_true, if_false, plainRows_flatMap] at h
      exact flatMap_append_inj issueRows_inj hfound hfound' hlength h

/-! ## Suggestions -/

theorem chars_titleRow (styled : Bool) (number : Nat) (suggestion : Suggestion) :
    (titleRow number suggestion).chars styled =
      "  ".toList ++ (Nat.toDigits 10 number ++ (". ".toList ++
        ((Span.colored .cyan ("[" ++ suggestion.category ++ "]")).chars styled ++
          (" " ++ suggestion.title).toList))) := by
  simp [titleRow]

/-- The title of a suggestion determines the suggestion and its number, with styles and without. -/
theorem titleRow_inj {styled styled' : Bool} {m n : Nat} {suggestion suggestion' : Suggestion}
    (hsuggestion : suggestion.IsBuiltin) (hsuggestion' : suggestion'.IsBuiltin)
    (h : (titleRow m suggestion).chars styled = (titleRow n suggestion').chars styled') :
    m = n ∧ suggestion = suggestion' := by
  rw [chars_titleRow, chars_titleRow] at h
  obtain ⟨hnumber, htitle⟩ := toDigits_append_inj (isDigit_of_mem_head? (by decide) _)
    (isDigit_of_mem_head? (by decide) _) (List.append_cancel_left h)
  refine ⟨hnumber, ?_⟩
  obtain ⟨template, htemplate, rfl⟩ := hsuggestion
  obtain ⟨template', htemplate', rfl⟩ := hsuggestion'
  simp only [Builtin.templates, List.mem_cons, List.not_mem_nil, or_false] at htemplate htemplate'
  rcases htemplate with rfl | rfl <;> rcases htemplate' with rfl | rfl <;>
    first
    | rfl
    | cases styled <;> cases styled' <;>
        simp [Builtin.arrayMethods, Builtin.modernDeclarations, Span.chars, Span.colored,
          Document.spanForTerminal, Style.start, Style.reset] at htitle

/-- The rows of a suggestion begin with its title, and so they determine it and its number. -/
theorem suggestionRows_inj {numbered numbered' : Suggestion × Nat}
    (hnumbered : numbered.1.IsBuiltin) (hnumbered' : numbered'.1.IsBuiltin)
    (h : plainRows (suggestionRows numbered.2 numbered.1) ++ rest =
      plainRows (suggestionRows numbered'.2 numbered'.1) ++ rest') :
    numbered = numbered' ∧ rest = rest' := by
  obtain ⟨suggestion, number⟩ := numbered
  obtain ⟨suggestion', number'⟩ := numbered'
  obtain ⟨rfl, rfl⟩ := titleRow_inj hnumbered hnumbered' (List.cons.inj h).1
  exact ⟨rfl, List.append_cancel_left h⟩

theorem suggestionsRows_inj {found found' : List Suggestion}
    (hfound : ∀ suggestion ∈ found, suggestion.IsBuiltin)
    (hfound' : ∀ suggestion ∈ found', suggestion.IsBuiltin)
    (h : plainRows (suggestionsRows found) ++ rest = plainRows (suggestionsRows found') ++ rest') :
    found = found' ∧ rest = rest' := by
  rw [suggestionsRows, suggestionsRows, plainRows_cons, plainRows_cons, List.cons_append,
    List.cons_append, List.cons.injEq] at h
  obtain ⟨hheading, h⟩ := h
  have hlength : found.length = found'.length := eq_of_heading "Suggestions (" hheading
  cases found with
  | nil =>
    obtain rfl := List.length_eq_zero_iff.mp hlength.symm
    exact ⟨rfl, List.append_cancel_left h⟩
  | cons suggestion found =>
    cases found' with
    | nil => cases hlength
    | cons suggestion' found' =>
      simp only [List.isEmpty_cons, Bool.false_eq_true, if_false, plainRows_flatMap] at h
      obtain ⟨hnumbered, hrest⟩ := flatMap_append_inj suggestionRows_inj
        (fun _ hmem => hfound _ (List.fst_mem_of_mem_zipIdx hmem))
        (fun _ hmem => hfound' _ (List.fst_mem_of_mem_zipIdx hmem)) (by simpa using hlength) h
      have hsame := congrArg (List.map Prod.fst) hnumbered
      rw [List.zipIdx_map_fst, List.zipIdx_map_fst] at hsame
      exact ⟨hsame, hrest⟩

/-! ## Figures -/

/-- A row that ends with a count determines the count. -/
theorem eq_of_countRow (label : String) {a b : Count}
    (h : Document.chars false [.plain (label ++ toString a.toNat)] =
      Document.chars false [.plain (label ++ toString b.toNat)]) : a = b := by
  have hdigits : Nat.toDigits 10 a.toNat = Nat.toDigits 10 b.toNat := by
    simpa using h
  refine Count.ext ?_
  rw [← numeral_ten_toDigits a.toNat, hdigits, numeral_ten_toDigits]

theorem metricsRows_inj {metrics metrics' : Metrics}
    (h : plainRows (metricsRows metrics) = plainRows (metricsRows metrics')) :
    metrics = metrics' := by
  obtain ⟨lines, functions, complexity, maintainability⟩ := metrics
  obtain ⟨lines', functions', complexity', maintainability'⟩ := metrics'
  simp only [metricsRows, plainRows, List.map_cons, List.map_nil, List.cons.injEq] at h
  obtain ⟨-, hlines, hfunctions, hcomplexity, hmaintainability, -⟩ := h
  rw [eq_of_countRow _ hlines, eq_of_countRow _ hfunctions, eq_of_countRow _ hcomplexity,
    eq_of_countRow _ hmaintainability]

end Render

/-! ## Whole reports -/

theorem Report.plainRows_rows (report : Report) :
    Render.plainRows (report.rows .all) =
      Render.plainRows (Render.issuesRows report.issues) ++ [] ::
        (Render.plainRows (Render.suggestionsRows report.suggestions) ++ [] ::
          Render.plainRows (Render.metricsRows report.metrics)) := by
  simp [rows, Render.sectionRows, List.intercalate, View.showsIssues, View.showsSuggestions,
    View.showsMetrics, Render.plainRows]

/-- Reports of built-in rules that look the same are the same. -/
theorem Report.document_injective {report report' : Report} (hreport : report.IsBuiltin)
    (hreport' : report'.IsBuiltin)
    (h : (report.document .all).plainText = (report'.document .all).plainText) :
    report = report' := by
  have hlines : Text.lines ((report.document .all).render false).toList =
      Text.lines ((report'.document .all).render false).toList := congrArg (Text.lines ·.toList) h
  rw [lines_render_document hreport.isUnbroken, lines_render_document hreport'.isUnbroken] at hlines
  have hrows : Render.plainRows (report.rows .all) = Render.plainRows (report'.rows .all) :=
    List.append_cancel_right hlines
  rw [plainRows_rows, plainRows_rows] at hrows
  obtain ⟨hissues, hrows⟩ := Render.issuesRows_inj hreport.issues hreport'.issues hrows
  obtain ⟨hsuggestions, hrows⟩ := Render.suggestionsRows_inj hreport.suggestions
    hreport'.suggestions (List.cons.inj hrows).2
  have hmetrics := Render.metricsRows_inj (List.cons.inj hrows).2
  cases report
  cases report'
  simp_all

namespace Registry

/-- Whatever texts are scanned, and whatever rules are switched off, two different reports never
look the same. -/
theorem document_scan_injective {toggles toggles' : Toggles} {registry registry' : Registry}
    (hregistry : ofToggles toggles = .ok registry) (hregistry' : ofToggles toggles' = .ok registry')
    (text text' : String)
    (h : ((registry.scan text).document .all).plainText =
      ((registry'.scan text').document .all).plainText) :
    registry.scan text = registry'.scan text' := by
  obtain rfl := eq_switched_of_ofToggles hregistry
  obtain rfl := eq_switched_of_ofToggles hregistry'
  exact Report.document_injective (isBuiltin_scan_switched _ text)
    (isBuiltin_scan_switched _ text') h

/-- One rule is switched off that has nothing to say, and there is more space around the text. -/
theorem document_scan_injective_indented :
    ∃ registry registry', ofToggles .empty = .ok registry ∧
      ofToggles (.ofList [(Builtin.looseEquality.id, false)]) = .ok registry' ∧
      ((registry.scan "var x = 1;").document .all).plainText =
        ((registry'.scan "\tvar x = 1;  ").document .all).plainText ∧
      registry.scan "var x = 1;" = registry'.scan "\tvar x = 1;  " := by
  have hregistry : ofToggles .empty = .ok builtin := rfl
  have hregistry' : ofToggles (.ofList [(Builtin.looseEquality.id, false)]) =
      .ok (builtin.erase Builtin.looseEquality.id) := rfl
  have hprinted : ((builtin.scan "var x = 1;").document .all).plainText =
      (((builtin.erase Builtin.looseEquality.id).scan "\tvar x = 1;  ").document
        .all).plainText := by
    decide +kernel
  exact ⟨_, _, hregistry, hregistry', hprinted,
    document_scan_injective hregistry hregistry' _ _ hprinted⟩

end Registry
end ScriptReview
