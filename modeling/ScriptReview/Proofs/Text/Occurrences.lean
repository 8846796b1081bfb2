import Mathlib.Data.List.Infix
import Mathlib.Order.Bounds.Basic
import ScriptReview.Text.Search

/-!
The most appearances that fit beside each other.

Where the appearances of a pattern overlap, counting them without overlap means choosing some of
them. The count takes the first appearance that is free and goes on behind it. No choice does better
(`length_le_occurrencesAfter`): its first position is not before the first match, so that the match
leaves at least as much room for the others. What the count takes is a choice itself
(`exists_isSelection`). Hence the count depends on nothing but the positions of the pattern
(`occurrences_congr`).
-/

namespace ScriptReview
namespace Text

/-- Positions at which the pattern stands in the text, in rising order, with no two of its
appearances there overlapping. -/
structure IsSelection (pattern text : List Char) (positions : List Nat) : Prop where
  stands : ∀ position ∈ positions, pattern <+: text.drop position
  apart : positions.Pairwise fun first second => first + pattern.length ≤ second

/-- The numbers of appearances that can be chosen without overlap. -/
def selectionSizes (pattern text : List Char) : Set Nat :=
  { number | ∃ positions, IsSelection pattern text positions ∧ positions.length = number }

section Pattern

variable {pattern text : List Char}

/-! ## Appearances -/

theorem occurs_iff_isInfix : occurs pattern text = true ↔ pattern <:+: text := by
  induction text with
  | nil =>
    rw [occurs, List.isEmpty_iff, List.infix_nil]
  | cons c text ih =>
    rw [occurs, Bool.or_eq_true, List.isPrefixOf_iff_prefix, ih, List.infix_cons_iff]

theorem mem_of_occurs (h : occurs pattern text = true) {c : Char} (hc : c ∈ pattern) : c ∈ text :=
  (occurs_iff_isInfix.mp h).subset hc

theorem infix_iff_exists_drop : pattern <:+: text ↔ ∃ position, pattern <+: text.drop position := by
  rw [List.infix_iff_prefix_suffix]
  constructor
  · intro h
    obtain ⟨rest, hbegins, hsuffix⟩ := h
    rw [List.suffix_iff_eq_drop.mp hsuffix] at hbegins
    exact ⟨_, hbegins⟩
  · intro h
    obtain ⟨position, hbegins⟩ := h
    exact ⟨_, hbegins, List.drop_suffix position text⟩

/-! ## Positions in a longer text -/

theorem IsSelection.nil (pattern text : List Char) : IsSelection pattern text [] :=
  ⟨fun _ h => absurd h List.not_mem_nil, List.Pairwise.nil⟩

theorem isSelection_map_succ {c : Char} {later : List Nat} :
    IsSelection pattern (c :: text) (later.map (· + 1)) ↔ IsSelection pattern text later := by
  have hstands : (∀ position ∈ later.map (· + 1), pattern <+: (c :: text).drop position) ↔
      ∀ position ∈ later, pattern <+: text.drop position := by
    simp only [List.forall_mem_map, List.drop_succ_cons]
  have hapart : (later.map (· + 1)).Pairwise (fun first second => first + pattern.length ≤ second) ↔
      later.Pairwise fun first second => first + pattern.length ≤ second := by
    rw [List.pairwise_map]
    have hshift : ∀ first second : Nat, first + 1 + pattern.length ≤ second + 1 ↔
        first + pattern.length ≤ second := fun first second => by omega
    simp only [hshift]
  constructor
  · intro h
    exact ⟨hstands.mp h.stands, hapart.mp h.apart⟩
  · intro h
    exact ⟨hstands.mpr h.stands, hapart.mpr h.apart⟩

/-- Positions behind the first character are positions in the rest of the text. -/
theorem exists_eq_map_succ {positions : List Nat} (h : ∀ position ∈ positions, 0 < position) :
    ∃ later : List Nat, positions = later.map (· + 1) := by
  have hsame : positions.map ((· + 1) ∘ (· - 1)) = positions.map id :=
    List.map_congr_left fun position hmem => Nat.sub_add_cancel (h position hmem)
  exact ⟨positions.map (· - 1), by rw [List.map_map, hsame, List.map_id]⟩

/-! ## Counting from the left -/

/-- No choice of positions behind the characters that are passed over is larger than the count. -/
theorem length_le_occurrencesAfter (h : pattern ≠ []) {skip : Nat} {positions : List Nat}
    (hpositions : IsSelection pattern text positions)
    (hskip : ∀ position ∈ positions, skip ≤ position) :
    positions.length ≤ occurrencesAfter pattern skip text := by
  induction text generalizing skip positions with
  | nil =>
    cases positions with
    | nil => exact Nat.zero_le _
    | cons first others =>
      have hstands := hpositions.stands first List.mem_cons_self
      rw [List.drop_nil, List.prefix_nil] at hstands
      exact absurd hstands h
  | cons c text ih =>
    -- Once no position is left at the first character, the rest of the text decides.
    have hlater : ∀ {skip : Nat} {positions : List Nat},
        IsSelection pattern (c :: text) positions → (∀ position ∈ positions, skip + 1 ≤ position) →
          positions.length ≤ occurrencesAfter pattern skip text := by
      intro skip positions hpositions hskip
      obtain ⟨later, rfl⟩ :=
        exists_eq_map_succ fun position hmem => Nat.zero_lt_of_lt (hskip position hmem)
      rw [List.length_map]
      refine ih (isSelection_map_succ.mp hpositions) fun position hmem => ?_
      exact Nat.le_of_succ_le_succ (hskip (position + 1) (List.mem_map_of_mem hmem))
    cases skip with
    | succ skip =>
      rw [occurrencesAfter]
      exact hlater hpositions hskip
    | zero =>
      rw [occurrencesAfter]
      by_cases hmatch : pattern.isPrefixOf (c :: text) = true
      · rw [if_pos hmatch]
        cases positions with
        | nil => exact Nat.zero_le _
        | cons first others =>
          obtain ⟨hfirst, hothers⟩ := List.pairwise_cons.mp hpositions.apart
          have hstands := (List.forall_mem_cons.mp hpositions.stands).2
          have hselection : IsSelection pattern (c :: text) others := ⟨hstands, hothers⟩
          have hlength : 0 < pattern.length := List.length_pos_of_ne_nil h
          refine Nat.succ_le_succ (hlater hselection fun position hmem => ?_)
          have hbehind := hfirst position hmem
          omega
      · rw [if_neg hmatch]
        refine hlater hpositions fun position hmem => ?_
        cases position with
        | succ position => exact Nat.succ_le_succ (Nat.zero_le position)
        | zero =>
          have hstands := hpositions.stands 0 hmem
          exact absurd (List.isPrefixOf_iff_prefix.mpr hstands) hmatch

/-- What the count takes is a choice. -/
theorem exists_isSelection (h : pattern ≠ []) (skip : Nat) (text : List Char) :
    ∃ positions, IsSelection pattern text positions ∧ (∀ position ∈ positions, skip ≤ position) ∧
      positions.length = occurrencesAfter pattern skip text := by
  induction text generalizing skip with
  | nil =>
    have hnone : pattern.isEmpty = false := List.isEmpty_eq_false_iff.mpr h
    refine ⟨[], IsSelection.nil pattern [], fun _ hmem => absurd hmem List.not_mem_nil, ?_⟩
    simp [occurrencesAfter, hnone]
  | cons c text ih =>
    cases skip with
    | succ skip =>
      obtain ⟨later, hlater, hskip, hlength⟩ := ih skip
      refine ⟨later.map (· + 1), isSelection_map_succ.mpr hlater, ?_, ?_⟩
      · exact List.forall_mem_map.mpr fun position hmem => Nat.succ_le_succ (hskip position hmem)
      · rw [List.length_map, hlength, occurrencesAfter]
    | zero =>
      rw [occurrencesAfter]
      by_cases hmatch : pattern.isPrefixOf (c :: text) = true
      · obtain ⟨later, hlater, hskip, hlength⟩ := ih (pattern.length - 1)
        have hmoved := isSelection_map_succ (c := c).mpr hlater
        refine ⟨0 :: later.map (· + 1), ⟨?_, ?_⟩, fun _ _ => Nat.zero_le _, ?_⟩
        · refine List.forall_mem_cons.mpr ⟨?_, hmoved.stands⟩
          exact List.isPrefixOf_iff_prefix.mp hmatch
        · refine List.pairwise_cons.mpr ⟨?_, hmoved.apart⟩
          refine List.forall_mem_map.mpr fun position hmem => ?_
          have hbehind := hskip position hmem
          omega
        · rw [if_pos hmatch, List.length_cons, List.length_map, hlength]
      · obtain ⟨later, hlater, -, hlength⟩ := ih 0
        refine ⟨later.map (· + 1), isSelection_map_succ.mpr hlater, fun _ _ => Nat.zero_le _, ?_⟩
        rw [if_neg hmatch, List.length_map, hlength]

theorem isGreatest_occurrences (h : pattern ≠ []) (text : List Char) :
    IsGreatest (selectionSizes pattern text) (occurrences pattern text) := by
  constructor
  · obtain ⟨positions, hpositions, -, hlength⟩ := exists_isSelection h 0 text
    exact ⟨positions, hpositions, hlength⟩
  · intro number hnumber
    obtain ⟨positions, hpositions, rfl⟩ := hnumber
    exact length_le_occurrencesAfter h hpositions fun position _ => Nat.zero_le position

/-! ## What the count depends on -/

theorem occurrences_pos_iff (h : pattern ≠ []) :
    0 < occurrences pattern text ↔ occurs pattern text = true := by
  obtain ⟨⟨positions, hpositions, hlength⟩, hgreatest⟩ := isGreatest_occurrences h text
  rw [occurs_iff_isInfix, infix_iff_exists_drop, ← hlength]
  constructor
  · intro hpositive
    obtain ⟨position, hmem⟩ := List.exists_mem_of_length_pos hpositive
    exact ⟨position, hpositions.stands position hmem⟩
  · intro hstands
    obtain ⟨position, hbegins⟩ := hstands
    have hsingle : IsSelection pattern text [position] :=
      ⟨List.forall_mem_singleton.mpr hbegins, List.pairwise_singleton _ position⟩
    rw [hlength]
    exact hgreatest ⟨[position], hsingle, rfl⟩

section Congr

variable {other : List Char}
  (hpositions : ∀ position, pattern <+: other.drop position ↔ pattern <+: text.drop position)
include hpositions

theorem occurs_congr : occurs pattern other = occurs pattern text := by
  rw [Bool.eq_iff_iff, occurs_iff_isInfix, occurs_iff_isInfix, infix_iff_exists_drop,
    infix_iff_exists_drop, exists_congr hpositions]

theorem occurrences_congr (h : pattern ≠ []) :
    occurrences pattern other = occurrences pattern text := by
  have hselection : ∀ positions, IsSelection pattern other positions ↔
      IsSelection pattern text positions := by
    intro positions
    constructor
    · intro h
      exact ⟨fun position hmem => (hpositions position).mp (h.stands position hmem), h.apart⟩
    · intro h
      exact ⟨fun position hmem => (hpositions position).mpr (h.stands position hmem), h.apart⟩
  have hsizes : selectionSizes pattern other = selectionSizes pattern text := by
    simp only [selectionSizes, hselection]
  have hgreatest := isGreatest_occurrences h other
  rw [hsizes] at hgreatest
  exact hgreatest.unique (isGreatest_occurrences h text)

end Congr

end Pattern

end Text
end ScriptReview
