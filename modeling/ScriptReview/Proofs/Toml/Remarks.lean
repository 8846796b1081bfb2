import ScriptReview.Proofs.Text.Joined
import ScriptReview.Proofs.Toml.Written

/-!
Comments and empty lines.

A row that is empty or holds nothing but a comment says nothing (`isRemark`). A document means the
same with such rows as without them, wherever they stand between its other rows
(`parse?_unlines`).
-/

namespace ScriptReview
namespace Toml

/-- The row is empty or a comment, perhaps with space at its front. -/
def isRemark (row : List Char) : Bool :=
  match skipSpace row with
  | [] => true
  | '#' :: text => text.all isShown
  | _ => false

variable {row : List Char}

theorem isRemark_iff :
    isRemark row = true ↔
      skipSpace row = [] ∨
        ∃ text, skipSpace row = '#' :: text ∧ ∀ c ∈ text, isShown c = true := by
  constructor
  · intro h
    unfold isRemark at h
    split at h
    · exact .inl ‹_›
    · exact .inr ⟨_, ‹_›, List.all_eq_true.mp h⟩
    · cases h
  · intro h
    rcases h with hnil | ⟨text, htext, hshown⟩
    · rw [isRemark, hnil]
    · rw [isRemark, htext]
      exact List.all_eq_true.mpr hshown

/-- Space at the front of a row does not reach over its end. -/
theorem skipSpace_append_newline (row rest : List Char) :
    skipSpace (row ++ '\n' :: rest) = skipSpace row ++ '\n' :: rest := by
  have hend : skipSpace ('\n' :: rest) = '\n' :: rest := skipSpace_cons rfl rest
  induction row with
  | nil => exact hend
  | cons c row ih =>
    by_cases hc : isSpace c = true
    · rw [List.cons_append, skipSpace, List.dropWhile_cons_of_pos hc, skipSpace,
        List.dropWhile_cons_of_pos hc]
      exact ih
    · have hnot : isSpace c = false := Bool.eq_false_iff.mpr hc
      rw [List.cons_append, skipSpace_cons hnot, skipSpace_cons hnot, List.cons_append]

theorem lineEnd_comment {text : List Char} (h : ∀ c ∈ text, isShown c = true)
    (rest : List Char) : lineEnd ('#' :: (text ++ '\n' :: rest)) = some ((), rest) := by
  have hcomment : skipComment ('#' :: (text ++ '\n' :: rest)) = '\n' :: rest := by
    show (text ++ '\n' :: rest).dropWhile isShown = '\n' :: rest
    rw [List.dropWhile_append_of_pos h, List.dropWhile_cons_of_neg (by decide)]
  rw [lineEnd, skipSpace_cons rfl, hcomment]
  rfl

theorem reads_of_isRemark (h : isRemark row = true) : Reads row none := by
  intro rest
  rcases isRemark_iff.mp h with hnil | ⟨text, htext, hshown⟩
  · refine ⟨'\n' :: rest, ?_, rfl⟩
    rw [line, skipSpace_append_newline, hnil, List.nil_append]
    rfl
  · have hend := lineEnd_comment hshown rest
    refine ⟨'#' :: (text ++ '\n' :: rest), ?_, hend⟩
    rw [line, skipSpace_append_newline, htext, List.cons_append]
    split
    · exact absurd (List.cons.inj ‹_›).1 (by decide)
    · rw [hend]

/-- The rows are read one by one, and those that say nothing leave nothing behind. -/
theorem exists_reads {rows : List (List Char)} {lines : List Line}
    (h : List.Forall₂ Says (rows.filter fun row => !isRemark row) lines) :
    ∃ said, List.Forall₂ Reads rows said ∧ said.flatMap Option.toList = lines := by
  induction rows generalizing lines with
  | nil =>
    cases h
    exact ⟨[], .nil, rfl⟩
  | cons row rows ih =>
    by_cases hrow : isRemark row = true
    · rw [List.filter_cons_of_neg (by simp [hrow])] at h
      obtain ⟨said, hreads, hsaid⟩ := ih h
      exact ⟨none :: said, .cons (reads_of_isRemark hrow) hreads, hsaid⟩
    · rw [List.filter_cons_of_pos (by simp [hrow])] at h
      obtain ⟨first, later, hfirst, hlater, rfl⟩ := List.forall₂_cons_left_iff.mp h
      obtain ⟨said, hreads, hsaid⟩ := ih hlater
      refine ⟨some first :: said, .cons hfirst.reads hreads, ?_⟩
      rw [List.flatMap_cons, hsaid]
      rfl

/-- Rows that say nothing may as well be left out. -/
theorem parse?_unlines {rows : List (List Char)} {lines : List Line}
    (h : List.Forall₂ Says (rows.filter fun row => !isRemark row) lines) {text written : String}
    (htext : text.toList = Text.unlines rows)
    (hwritten : written.toList = Text.unlines (rows.filter fun row => !isRemark row)) :
    parse? text = parse? written := by
  obtain ⟨said, hreads, hsaid⟩ := exists_reads h
  have hsame : readLines text = readLines written := by
    rw [readLines_of_reads hreads htext, hsaid, readLines_of_says h hwritten]
  rw [parse?, parse?, hsame]

end Toml
end ScriptReview
