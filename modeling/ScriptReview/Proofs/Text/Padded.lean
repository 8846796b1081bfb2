import Mathlib.Data.List.Forall2
import ScriptReview.Proofs.Text.Joined
import ScriptReview.Proofs.Text.Trim

/-!
Lines with padding around them.

Padding is made of blank characters other than the space and the line feed: tabs, carriage returns,
byte order marks and the like. It does not show after trimming (`Padding.trim_around`). A pattern in
which no such character appears is found in the padded line where it is found in the line, and as
often (`Unpadded.occurs_around`, `Unpadded.occurrences_around`). The space is left out because
patterns begin and end with spaces.
-/

namespace ScriptReview
namespace Text

/-- A blank character that is neither a space nor the end of a line. -/
def isPadding (c : Char) : Bool :=
  isBlank c && c != ' ' && c != '\n'

/-- What is put around one line. -/
structure Padding where
  front : List Char
  back : List Char
  isPadding_front : ∀ c ∈ front, isPadding c = true
  isPadding_back : ∀ c ∈ back, isPadding c = true

namespace Padding

def around (padding : Padding) (line : List Char) : List Char :=
  padding.front ++ line ++ padding.back

def none : Padding := ⟨[], [], by simp, by simp⟩

/-- Indentation by so many tabs. -/
def tabs (count : Nat) : Padding :=
  ⟨List.replicate count '\t', [], fun c h => by rw [List.eq_of_mem_replicate h]; decide, by simp⟩

def carriageReturn : Padding := ⟨[], ['\r'], by simp, List.forall_mem_singleton.2 rfl⟩

def byteOrderMark : Padding := ⟨['\uFEFF'], [], List.forall_mem_singleton.2 rfl, by simp⟩

end Padding

/-- The text with padding around each of its lines, chosen by the number of lines before it. -/
def padLines (padding : Nat → Padding) (text : List Char) : List Char :=
  ['\n'].intercalate ((lines text).mapIdx fun before line => (padding before).around line)

/-- The text with a carriage return before every line feed. -/
def returnLines (text : List Char) : List Char :=
  text.flatMap fun c => if c = '\n' then ['\r', '\n'] else [c]

/-- One line is the other with padding around it. -/
def PaddedLine (line padded : List Char) : Prop :=
  ∃ padding : Padding, padded = padding.around line

/-! ## Trimming -/

theorem isBlank_of_isPadding {c : Char} (h : isPadding c = true) : isBlank c = true := by
  rw [isPadding, Bool.and_assoc, Bool.and_eq_true] at h
  exact h.1

theorem Padding.trim_around (padding : Padding) (line : List Char) :
    trim (padding.around line) = trim line :=
  trim_append_append (fun c hc => isBlank_of_isPadding (padding.isPadding_front c hc))
    (fun c hc => isBlank_of_isPadding (padding.isPadding_back c hc)) line

/-! ## Patterns -/

section Pattern

variable {pattern : List Char}

theorem occurs_nil (h : pattern ≠ []) : occurs pattern [] = false := by
  rw [occurs, List.isEmpty_eq_false_iff]
  exact h

theorem occurrences_nil (h : pattern ≠ []) : occurrences pattern [] = 0 := by
  rw [occurrences, occurrencesAfter, if_neg]
  rw [List.isEmpty_iff]
  exact h

/-- Characters that are not in the pattern can be put in front of a text. -/
theorem occurs_append_left (h : pattern ≠ []) {front : List Char}
    (hfront : ∀ c ∈ front, c ∉ pattern)
    (text : List Char) : occurs pattern (front ++ text) = occurs pattern text := by
  induction front with
  | nil => rfl
  | cons c front ih =>
    have hjoined := occurs_joined (hfront c List.mem_cons_self) [] (front ++ text)
    rw [occurs_nil h, Bool.false_or] at hjoined
    exact hjoined.trans (ih fun d hd => hfront d (List.mem_cons_of_mem c hd))

theorem occurs_append_right (h : pattern ≠ []) {back : List Char} (hback : ∀ c ∈ back, c ∉ pattern)
    (text : List Char) : occurs pattern (text ++ back) = occurs pattern text := by
  cases back with
  | nil => rw [List.append_nil]
  | cons c back =>
    have hrest := occurs_append_left h (fun d hd => hback d (List.mem_cons_of_mem c hd)) []
    rw [occurs_joined (hback c List.mem_cons_self), ← List.append_nil back, hrest, occurs_nil h,
      Bool.or_false]

theorem occurrences_append_left (h : pattern ≠ []) {front : List Char}
    (hfront : ∀ c ∈ front, c ∉ pattern) (text : List Char) :
    occurrences pattern (front ++ text) = occurrences pattern text := by
  induction front with
  | nil => rfl
  | cons c front ih =>
    have hjoined := occurrences_joined (hfront c List.mem_cons_self) [] (front ++ text)
    rw [occurrences_nil h, Nat.zero_add] at hjoined
    exact hjoined.trans (ih fun d hd => hfront d (List.mem_cons_of_mem c hd))

theorem occurrences_append_right (h : pattern ≠ []) {back : List Char}
    (hback : ∀ c ∈ back, c ∉ pattern) (text : List Char) :
    occurrences pattern (text ++ back) = occurrences pattern text := by
  cases back with
  | nil => rw [List.append_nil]
  | cons c back =>
    have hrest := occurrences_append_left h (fun d hd => hback d (List.mem_cons_of_mem c hd)) []
    rw [occurrences_joined (hback c List.mem_cons_self), ← List.append_nil back, hrest,
      occurrences_nil h, Nat.add_zero]

end Pattern

/-- The pattern is not empty and has no character that padding is made of. -/
def Unpadded (pattern : List Char) : Prop :=
  pattern ≠ [] ∧ ∀ c ∈ pattern, isPadding c = false

-- Along the pattern: the instance for a predicate of all characters would try every one of them.
instance (pattern : List Char) : Decidable (Unpadded pattern) :=
  haveI : Decidable (∀ c ∈ pattern, isPadding c = false) := List.decidableBAll _ _
  inferInstanceAs (Decidable (_ ∧ _))

namespace Unpadded

variable {pattern : List Char} (h : Unpadded pattern)
include h

theorem notMem {c : Char} (hc : isPadding c = true) : c ∉ pattern := fun hmem => by
  rw [h.2 c hmem] at hc
  cases hc

theorem occurs_around (padding : Padding) (line : List Char) :
    occurs pattern (padding.around line) = occurs pattern line := by
  rw [Padding.around, occurs_append_right h.1 fun c hc => h.notMem (padding.isPadding_back c hc),
    occurs_append_left h.1 fun c hc => h.notMem (padding.isPadding_front c hc)]

theorem occurrences_around (padding : Padding) (line : List Char) :
    occurrences pattern (padding.around line) = occurrences pattern line := by
  rw [Padding.around,
    occurrences_append_right h.1 fun c hc => h.notMem (padding.isPadding_back c hc),
    occurrences_append_left h.1 fun c hc => h.notMem (padding.isPadding_front c hc)]

end Unpadded

/-! ## Whole texts -/

theorem newline_notMem_of_mem_lines {text line : List Char} (h : line ∈ lines text) :
    '\n' ∉ line := by
  induction text using lines_induction with
  | single first hfirst =>
    rw [lines_of_notMem hfirst, List.mem_singleton] at h
    exact h ▸ hfirst
  | joined first rest hfirst ih =>
    rw [lines_joined, lines_of_notMem hfirst, List.singleton_append, List.mem_cons] at h
    rcases h with rfl | h
    · exact hfirst
    · exact ih h

theorem Padding.newline_notMem_around (padding : Padding) {line : List Char} (h : '\n' ∉ line) :
    '\n' ∉ padding.around line := by
  have hnewline : isPadding '\n' = false := by decide
  have hfront : '\n' ∉ padding.front := fun hmem => by
    rw [padding.isPadding_front _ hmem] at hnewline
    cases hnewline
  have hback : '\n' ∉ padding.back := fun hmem => by
    rw [padding.isPadding_back _ hmem] at hnewline
    cases hnewline
  simp [Padding.around, hfront, h, hback]

theorem PaddedLine.refl (line : List Char) : PaddedLine line line :=
  ⟨.none, (List.append_nil line).symm⟩

/-- Each line stands beside what it becomes. -/
theorem forall₂_mapIdx {related : List Char → List Char → Prop}
    {edit : Nat → List Char → List Char} (h : ∀ before line, related line (edit before line))
    (lines : List (List Char)) : List.Forall₂ related lines (lines.mapIdx edit) := by
  induction lines generalizing edit with
  | nil => exact List.Forall₂.nil
  | cons line lines ih =>
    rw [List.mapIdx_cons]
    exact List.Forall₂.cons (h 0 line) (ih fun before => h (before + 1))

/-- A text whose lines are edited one by one has the edited lines, as long as no line feed comes in
with them. -/
theorem lines_intercalate_mapIdx {edit : Nat → List Char → List Char}
    (h : ∀ before line, '\n' ∉ line → '\n' ∉ edit before line) (text : List Char) :
    lines (['\n'].intercalate ((lines text).mapIdx edit)) = (lines text).mapIdx edit := by
  refine List.splitOn_intercalate '\n' (fun edited hedited => ?_) ?_
  · obtain ⟨before, hbefore, rfl⟩ := List.mem_mapIdx.mp hedited
    exact h before _ (newline_notMem_of_mem_lines (List.getElem_mem hbefore))
  · rw [Ne, List.mapIdx_eq_nil_iff]
    exact List.splitOn_ne_nil '\n' text

theorem lines_padLines (padding : Nat → Padding) (text : List Char) :
    lines (padLines padding text) =
      (lines text).mapIdx fun before line => (padding before).around line :=
  lines_intercalate_mapIdx (fun before _ hline => (padding before).newline_notMem_around hline) text

theorem forall₂_lines_padLines (padding : Nat → Padding) (text : List Char) :
    List.Forall₂ PaddedLine (lines text) (lines (padLines padding text)) := by
  rw [lines_padLines]
  exact forall₂_mapIdx (fun before line => ⟨padding before, rfl⟩) (lines text)

theorem forall₂_lines_byteOrderMark (text : List Char) :
    List.Forall₂ PaddedLine (lines text) (lines ('\uFEFF' :: text)) := by
  rw [lines_cons, if_neg (by decide)]
  cases hlines : lines text with
  | nil => exact List.Forall₂.nil
  | cons line later =>
    refine List.Forall₂.cons ⟨.byteOrderMark, ?_⟩ (List.forall₂_same.mpr fun line _ => .refl line)
    exact (List.append_nil ('\uFEFF' :: line)).symm

theorem returnLines_of_notMem {line : List Char} (h : '\n' ∉ line) : returnLines line = line := by
  induction line with
  | nil => rfl
  | cons c line ih =>
    have hc : c ≠ '\n' := fun e => h (e ▸ List.mem_cons_self)
    rw [returnLines, List.flatMap_cons, if_neg hc]
    exact congrArg (c :: ·) (ih fun hmem => h (List.mem_cons_of_mem c hmem))

theorem forall₂_lines_returnLines (text : List Char) :
    List.Forall₂ PaddedLine (lines text) (lines (returnLines text)) := by
  induction text using lines_induction with
  | single line hline =>
    rw [returnLines_of_notMem hline]
    exact List.forall₂_same.mpr fun line _ => PaddedLine.refl line
  | joined line rest hline ih =>
    have hreturn : '\n' ∉ line ++ ['\r'] := by simp [hline]
    have hlines : returnLines (line ++ '\n' :: rest) =
        (line ++ ['\r']) ++ '\n' :: returnLines rest := by
      have hnewline : returnLines ('\n' :: rest) = '\r' :: '\n' :: returnLines rest := rfl
      rw [returnLines, List.flatMap_append, ← returnLines, ← returnLines, hnewline,
        returnLines_of_notMem hline, ← List.append_cons]
    rw [hlines, lines_joined, lines_joined, lines_of_notMem hline, lines_of_notMem hreturn]
    exact List.Forall₂.cons ⟨.carriageReturn, rfl⟩ ih

end Text
end ScriptReview
