import Mathlib.Algebra.GroupWithZero.Nat
import ScriptReview.Text.Lines
import ScriptReview.Text.Search

/-!
Two texts with a line feed between them.

The lines of the joined text are those of the first and then those of the second. A pattern without
a line feed appears in the joined text where it appears in one of the two, and as often as in both
together: no appearance reaches across the line feed, and the count from the left starts afresh
after it (`occurrences_joined`). The same holds of any other character that is not in the pattern.
Since every text is its lines joined (`lines_induction`), a pattern is found in a text by looking at
its lines one by one. A text that is written in rows, each with a line feed after it, has these rows
as its lines and an empty line behind them (`lines_unlines`).
-/

namespace ScriptReview
namespace Text

theorem lines_joined (a b : List Char) : lines (a ++ '\n' :: b) = lines a ++ lines b :=
  List.splitOn_append_cons_self a b

section Separator

variable {separator : Char}

/-- A pattern without the separator that stands at the beginning of a joined text ends before the
separator. -/
theorem isPrefixOf_joined {pattern : List Char} (h : separator ∉ pattern) (a b : List Char) :
    pattern.isPrefixOf (a ++ separator :: b) = pattern.isPrefixOf a := by
  induction pattern generalizing a with
  | nil => rfl
  | cons p pattern ih =>
    have hp : p ≠ separator := fun e => h (e ▸ List.mem_cons_self)
    have hpattern : separator ∉ pattern := fun m => h (List.mem_cons_of_mem p m)
    cases a with
    | nil => simp [List.isPrefixOf_cons_cons, hp]
    | cons c a =>
      rw [List.cons_append, List.isPrefixOf_cons_cons, List.isPrefixOf_cons_cons, ih hpattern]

theorem occurs_joined {pattern : List Char} (h : separator ∉ pattern) (a b : List Char) :
    occurs pattern (a ++ separator :: b) = (occurs pattern a || occurs pattern b) := by
  induction a with
  | nil =>
    have hstart := isPrefixOf_joined h [] b
    rw [List.nil_append] at hstart
    rw [List.nil_append, occurs, occurs, hstart]
    cases pattern <;> rfl
  | cons c a ih =>
    have hstart := isPrefixOf_joined h (c :: a) b
    rw [List.cons_append] at hstart
    rw [List.cons_append, occurs, occurs, hstart, ih, Bool.or_assoc]

/-- The count of a joined text once `skip` characters of its first half are passed over. A match
that begins in the first half is passed over within it, so the induction on the first half never
has characters left to skip when it comes to the separator. -/
theorem occurrencesAfter_joined {pattern : List Char} (h : separator ∉ pattern) (a b : List Char) :
    ∀ {skip : Nat}, skip ≤ a.length →
      occurrencesAfter pattern skip (a ++ separator :: b) =
        occurrencesAfter pattern skip a + occurrencesAfter pattern 0 b := by
  induction a with
  | nil =>
    intro skip hskip
    obtain rfl : skip = 0 := Nat.le_zero.mp hskip
    have hstart := isPrefixOf_joined h [] b
    rw [List.nil_append] at hstart
    rw [List.nil_append, occurrencesAfter, occurrencesAfter, hstart]
    cases pattern with
    | nil => simp [Nat.add_comm]
    | cons p pattern => simp
  | cons c a ih =>
    intro skip hskip
    cases skip with
    | succ skip =>
      rw [List.cons_append, occurrencesAfter, occurrencesAfter]
      exact ih (Nat.le_of_succ_le_succ hskip)
    | zero =>
      have hstart := isPrefixOf_joined h (c :: a) b
      rw [List.cons_append] at hstart
      rw [List.cons_append, occurrencesAfter, occurrencesAfter, hstart]
      by_cases hmatch : pattern.isPrefixOf (c :: a) = true
      · have hlength : pattern.length ≤ a.length + 1 :=
          (List.isPrefixOf_iff_prefix.mp hmatch).length_le
        rw [if_pos hmatch, if_pos hmatch, ih (by omega)]
        omega
      · rw [if_neg hmatch, if_neg hmatch]
        exact ih (Nat.zero_le a.length)

theorem occurrences_joined {pattern : List Char} (h : separator ∉ pattern) (a b : List Char) :
    occurrences pattern (a ++ separator :: b) = occurrences pattern a + occurrences pattern b :=
  occurrencesAfter_joined h a b (Nat.zero_le a.length)

end Separator

/-- The appearances of several patterns, each counted for itself. -/
theorem foldl_occurrences_joined {patterns : List (List Char)}
    (h : ∀ pattern ∈ patterns, '\n' ∉ pattern) (a b : List Char) (m n : Nat) :
    (patterns.map (occurrences · (a ++ '\n' :: b))).foldl (· + ·) (m + n) =
      (patterns.map (occurrences · a)).foldl (· + ·) m +
        (patterns.map (occurrences · b)).foldl (· + ·) n := by
  induction patterns generalizing m n with
  | nil => rfl
  | cons pattern patterns ih =>
    have hfirst := occurrences_joined (h pattern List.mem_cons_self) a b
    have hsum : m + n + (occurrences pattern a + occurrences pattern b) =
        m + occurrences pattern a + (n + occurrences pattern b) := by omega
    simp only [List.map_cons, List.foldl_cons]
    rw [hfirst, hsum, ih fun p hp => h p (List.mem_cons_of_mem pattern hp)]

/-! ## Line by line -/

theorem lines_of_notMem {line : List Char} (h : '\n' ∉ line) : lines line = [line] :=
  List.splitOn_eq_singleton h

/-- Rows with a line feed after each of them. -/
def unlines (rows : List (List Char)) : List Char :=
  rows.flatMap (· ++ ['\n'])

/-- Rows without line feeds of their own are the lines of their text, but for the last line, which
is empty. -/
theorem lines_unlines {rows : List (List Char)} (h : ∀ row ∈ rows, '\n' ∉ row) :
    lines (unlines rows) = rows ++ [[]] := by
  induction rows with
  | nil => rfl
  | cons row rows ih =>
    have hjoined : unlines (row :: rows) = row ++ '\n' :: unlines rows := by simp [unlines]
    rw [hjoined, lines_joined, lines_of_notMem (h row List.mem_cons_self),
      ih fun later hlater => h later (List.mem_cons_of_mem row hlater)]
    rfl

/-- Every text is a single piece without the separator, or such a piece before a shorter text. -/
@[elab_as_elim]
theorem separated_induction (separator : Char) {motive : List Char → Prop}
    (single : ∀ piece, separator ∉ piece → motive piece)
    (joined : ∀ piece rest, separator ∉ piece → motive rest → motive (piece ++ separator :: rest))
    (text : List Char) : motive text := by
  -- The characters since the last separator are carried along in front of the text.
  suffices h : ∀ piece, separator ∉ piece → motive (piece ++ text) from h [] List.not_mem_nil
  induction text with
  | nil =>
    intro piece hpiece
    rw [List.append_nil]
    exact single piece hpiece
  | cons c text ih =>
    intro piece hpiece
    by_cases hc : c = separator
    · subst hc
      exact joined piece text hpiece (ih [] List.not_mem_nil)
    · have hlonger : separator ∉ piece ++ [c] := by simp [hpiece, Ne.symm hc]
      rw [List.append_cons]
      exact ih (piece ++ [c]) hlonger

/-- Every text is a single line, or a line before a shorter text. -/
@[elab_as_elim]
theorem lines_induction {motive : List Char → Prop}
    (single : ∀ line, '\n' ∉ line → motive line)
    (joined : ∀ line rest, '\n' ∉ line → motive rest → motive (line ++ '\n' :: rest))
    (text : List Char) : motive text :=
  separated_induction '\n' single joined text

theorem infix_of_mem_lines {text line : List Char} (h : line ∈ lines text) : line <:+: text := by
  induction text using lines_induction with
  | single first hfirst =>
    rw [lines_of_notMem hfirst, List.mem_singleton] at h
    exact h ▸ List.infix_rfl
  | joined first rest hfirst ih =>
    rw [lines_joined, lines_of_notMem hfirst, List.singleton_append, List.mem_cons] at h
    rcases h with rfl | h
    · exact (List.prefix_append line _).isInfix
    · exact (ih h).trans ⟨first ++ ['\n'], [], by simp⟩

theorem occurs_eq_any_lines {pattern : List Char} (h : '\n' ∉ pattern) (text : List Char) :
    occurs pattern text = (lines text).any (occurs pattern) := by
  induction text using lines_induction with
  | single line hline =>
    rw [lines_of_notMem hline, List.any_cons, List.any_nil, Bool.or_false]
  | joined line rest hline ih =>
    rw [occurs_joined h, ih, lines_joined, lines_of_notMem hline, List.singleton_append,
      List.any_cons]

theorem occurrences_eq_sum_lines {pattern : List Char} (h : '\n' ∉ pattern) (text : List Char) :
    occurrences pattern text = ((lines text).map (occurrences pattern)).sum := by
  induction text using lines_induction with
  | single line hline =>
    rw [lines_of_notMem hline, List.map_singleton, List.sum_singleton]
  | joined line rest hline ih =>
    rw [occurrences_joined h, ih, lines_joined, lines_of_notMem hline, List.singleton_append,
      List.map_cons, List.sum_cons]

end Text
end ScriptReview
