import ScriptReview.Proofs.Render.Rows

/-!
The numbers in a report for people.

Of all rows of a report only the titles of suggestions begin with a number: headings begin with a
letter, the other rows of an issue and of the figures with a word after two spaces, and what is
printed of a text stands further to the right. Hence a suggestion has the number that the row with
its title begins with (`Report.mem_rows_and_beginsWithNumber_iff`).
-/

namespace ScriptReview
namespace Render

/-- Does a number stand at the beginning of the row, after two spaces? -/
def beginsWithNumber : List Char → Bool
  | ' ' :: ' ' :: c :: _ => Text.isDigit c
  | _ => false

theorem beginsWithNumber_append {front : List Char} (h : 3 ≤ front.length) (back : List Char) :
    beginsWithNumber (front ++ back) = beginsWithNumber front := by
  match front, h with
  | a :: b :: c :: more, _ =>
    simp only [List.cons_append]
    unfold beginsWithNumber
    split <;> split <;> simp_all

variable (styled : Bool)

theorem beginsWithNumber_titleRow (number : Nat) (suggestion : Suggestion) :
    beginsWithNumber ((titleRow number suggestion).chars styled) = true := by
  obtain ⟨c, more, hdigits, hc, -⟩ := Text.exists_toDigits_eq_cons number
  simp [titleRow, hdigits, beginsWithNumber, hc]

/-- A row that is all in one style begins with its text or with the escape character. -/
theorem beginsWithNumber_styled (style : Style) {text : String}
    (h : beginsWithNumber text.toList = false) :
    beginsWithNumber (Document.chars styled [⟨some style, text⟩]) = false := by
  rw [Document.chars_cons, Document.chars_nil, List.append_nil]
  cases styled with
  | false => exact h
  | true => rfl

/-- A row that begins without a style is known by the first three characters. -/
theorem beginsWithNumber_plain (label text : String) (spans : Document)
    (hlength : 3 ≤ label.toList.length) (h : beginsWithNumber label.toList = false) :
    beginsWithNumber (Document.chars styled (.plain (label ++ text) :: spans)) = false := by
  rw [Document.chars_cons, Span.chars_plain, String.toList_append, List.append_assoc,
    beginsWithNumber_append hlength, h]

theorem beginsWithNumber_issuesRows {found : List Issue} {row : Document}
    (hrow : row ∈ issuesRows found) : beginsWithNumber (row.chars styled) = false := by
  rcases List.mem_cons.mp hrow with rfl | hrow
  · exact beginsWithNumber_styled styled _ (by simp [beginsWithNumber])
  · split at hrow
    · rw [List.mem_singleton] at hrow
      subst hrow
      exact beginsWithNumber_styled styled _ (by decide)
    · obtain ⟨issue, -, hrow⟩ := List.mem_flatMap.mp hrow
      simp only [issueRows, String.append_assoc, List.mem_cons, List.not_mem_nil, or_false] at hrow
      rcases hrow with rfl | rfl
      · exact beginsWithNumber_plain styled "  line " _ _ (by decide) (by decide)
      · exact beginsWithNumber_plain styled "    " _ _ (by decide) (by decide)

theorem beginsWithNumber_metricsRows {metrics : Metrics} {row : Document}
    (hrow : row ∈ metricsRows metrics) : beginsWithNumber (row.chars styled) = false := by
  simp only [metricsRows, List.mem_cons, List.not_mem_nil, or_false] at hrow
  rcases hrow with rfl | rfl | rfl | rfl | rfl
  · exact beginsWithNumber_styled styled _ (by decide)
  · exact beginsWithNumber_plain styled "  Lines of code:   " _ _ (by decide) (by decide)
  · exact beginsWithNumber_plain styled "  Functions:       " _ _ (by decide) (by decide)
  · exact beginsWithNumber_plain styled "  Complexity:      " _ _ (by decide) (by decide)
  · exact beginsWithNumber_plain styled "  Maintainability: " _ _ (by decide) (by decide)

/-- The rows of a suggestion after its title do not begin with a number: they are indented further,
or empty. -/
theorem eq_titleRow_of_mem_suggestionRows {number : Nat} {suggestion : Suggestion} {row : Document}
    (hrow : row ∈ suggestionRows number suggestion)
    (hbegins : beginsWithNumber (row.chars styled) = true) : row = titleRow number suggestion := by
  simp only [suggestionRows, List.mem_cons, List.mem_map] at hrow
  rcases hrow with rfl | rfl | rfl | ⟨line, -, rfl⟩
  · rfl
  · refine absurd hbegins (Bool.eq_false_iff.mp ?_)
    exact beginsWithNumber_plain styled "     " _ _ (by decide) (by decide)
  · cases hbegins
  · cases line with
    | nil => simp [exampleRow, beginsWithNumber] at hbegins
    | cons c line =>
      refine absurd hbegins (Bool.eq_false_iff.mp ?_)
      exact beginsWithNumber_plain styled "       " _ _ (by decide) (by decide)

theorem exists_eq_titleRow_of_mem_suggestionsRows {found : List Suggestion} {row : Document}
    (hrow : row ∈ suggestionsRows found)
    (hbegins : beginsWithNumber (row.chars styled) = true) :
    ∃ index suggestion, found[index]? = some suggestion ∧
      row = titleRow (index + 1) suggestion := by
  rcases List.mem_cons.mp hrow with rfl | hrow
  · refine absurd hbegins (Bool.eq_false_iff.mp ?_)
    exact beginsWithNumber_styled styled _ (by simp [beginsWithNumber])
  · split at hrow
    · rw [List.mem_singleton] at hrow
      subst hrow
      refine absurd hbegins (Bool.eq_false_iff.mp ?_)
      exact beginsWithNumber_plain styled "  No suggestions" "" [] (by decide) (by decide)
    · obtain ⟨⟨suggestion, number⟩, hnumbered, hrow⟩ := List.mem_flatMap.mp hrow
      obtain ⟨hnumber, hsuggestion⟩ := List.mk_mem_zipIdx_iff_le_and_getElem?_sub.mp hnumbered
      refine ⟨number - 1, suggestion, hsuggestion, ?_⟩
      rw [Nat.sub_add_cancel hnumber]
      exact eq_titleRow_of_mem_suggestionRows styled hrow hbegins

theorem titleRow_mem_suggestionsRows {index : Nat} {found : List Suggestion}
    {suggestion : Suggestion} (h : found[index]? = some suggestion) :
    titleRow (index + 1) suggestion ∈ suggestionsRows found := by
  have hnumbered : (suggestion, index + 1) ∈ found.zipIdx 1 :=
    List.mk_mem_zipIdx_iff_le_and_getElem?_sub.mpr ⟨Nat.le_add_left 1 index, h⟩
  cases found with
  | nil => cases h
  | cons first more =>
    exact List.mem_cons_of_mem _ (List.mem_flatMap.mpr ⟨_, hnumbered, List.mem_cons_self⟩)

end Render

namespace Report

variable {report : Report} {view : View}

/-- A row that begins with a number is the title of the suggestion with that number. -/
theorem exists_eq_titleRow_of_mem_rows {styled : Bool} {row : Document}
    (hrow : row ∈ report.rows view)
    (hbegins : Render.beginsWithNumber (row.chars styled) = true) :
    ∃ index suggestion, report.suggestions[index]? = some suggestion ∧
      row = Render.titleRow (index + 1) suggestion := by
  rcases mem_rows_or_eq_nil hrow with rfl | ⟨part, hpart, hrow⟩
  · cases hbegins
  · simp only [Render.sectionRows, List.mem_append, List.mem_ite_nil_right,
      List.mem_singleton] at hpart
    rcases hpart with (⟨-, rfl⟩ | ⟨-, rfl⟩) | ⟨-, rfl⟩
    · rw [Render.beginsWithNumber_issuesRows styled hrow] at hbegins
      cases hbegins
    · exact Render.exists_eq_titleRow_of_mem_suggestionsRows styled hrow hbegins
    · rw [Render.beginsWithNumber_metricsRows styled hrow] at hbegins
      cases hbegins

theorem titleRow_mem_rows (hview : view.showsSuggestions = true) {index : Nat}
    {suggestion : Suggestion} (h : report.suggestions[index]? = some suggestion) :
    Render.titleRow (index + 1) suggestion ∈ report.rows view := by
  have hpart : Render.suggestionsRows report.suggestions ∈ Render.sectionRows view report := by
    simp [Render.sectionRows, hview]
  exact mem_rows hpart (Render.titleRow_mem_suggestionsRows h)

end Report
end ScriptReview
