import ScriptReview.Proofs.Text.Joined

/-!
Spaces right behind words.

A marker is a word with a space behind it. Since the space comes nowhere else in it, markers do not
overlap, and counting the appearances of one from the left counts all spaces right behind its word
(`occurrences_eq_spacesBehind`). Where no word ends in another, a space stands behind one word at
most, and the counts for several words add up to the spaces behind any of them
(`sum_occurrences_eq_spacesBehind`). The proofs go through a text from one space to the next.
-/

namespace ScriptReview
namespace Text

/-- Does the text end in one of the words? -/
def endsIn (words : List (List Char)) (text : List Char) : Bool :=
  words.any fun word => word.isSuffixOf text

/-- Is there a space at the position, right behind one of the words? -/
def isSpaceBehind (words : List (List Char)) (text : List Char) (position : Nat) : Bool :=
  text[position]? == some ' ' && endsIn words (text.take position)

/-- The number of spaces right behind one of the words. -/
def spacesBehind (words : List (List Char)) (text : List Char) : Nat :=
  (List.range text.length).countP (isSpaceBehind words text)

/-- The spaces right behind one of the words, counted in one pass from the left. It keeps the
characters since the last space. -/
def passSpaces (words : List (List Char)) (piece : List Char) : List Char → Nat
  | [] => 0
  | c :: text =>
    if c = ' ' then (if endsIn words piece then 1 else 0) + passSpaces words [] text
    else passSpaces words (piece ++ [c]) text

section Words

variable {words : List (List Char)} {piece : List Char}

theorem suffix_joined_iff {word : List Char} (hword : ' ' ∉ word) (rest : List Char) :
    word <:+ piece ++ ' ' :: rest ↔ word <:+ rest := by
  have hrest : rest <:+ piece ++ ' ' :: rest :=
    (List.suffix_cons ' ' rest).trans (List.suffix_append piece (' ' :: rest))
  refine ⟨fun h => ?_, fun h => h.trans hrest⟩
  -- The word cannot reach back to the space.
  have hspace : ¬(' ' :: rest <:+ word) := fun hback => hword (hback.subset List.mem_cons_self)
  rcases List.suffix_or_suffix_of_suffix h (List.suffix_append piece (' ' :: rest)) with h | h
  · rcases List.suffix_cons_iff.mp h with rfl | h
    · exact absurd (List.suffix_refl _) hspace
    · exact h
  · exact absurd h hspace

theorem endsIn_joined (hwords : ∀ word ∈ words, ' ' ∉ word) (rest : List Char) :
    endsIn words (piece ++ ' ' :: rest) = endsIn words rest := by
  rw [Bool.eq_iff_iff]
  simp only [endsIn, List.any_eq_true, List.isSuffixOf_iff_suffix]
  refine exists_congr fun word => and_congr_right fun hword => ?_
  exact suffix_joined_iff (hwords word hword) rest

theorem isSpaceBehind_of_lt (hpiece : ' ' ∉ piece) (rest : List Char) {position : Nat}
    (h : position < piece.length) : isSpaceBehind words (piece ++ rest) position = false := by
  have hne : piece[position] ≠ ' ' := fun hspace => hpiece (hspace ▸ List.getElem_mem h)
  rw [isSpaceBehind, List.getElem?_append_left h, List.getElem?_eq_getElem h]
  simp [hne]

theorem isSpaceBehind_length (rest : List Char) :
    isSpaceBehind words (piece ++ ' ' :: rest) piece.length = endsIn words piece := by
  rw [isSpaceBehind, List.getElem?_append_right (Nat.le_refl _), Nat.sub_self, List.take_left]
  rfl

theorem isSpaceBehind_add (hwords : ∀ word ∈ words, ' ' ∉ word) (rest : List Char)
    (position : Nat) :
    isSpaceBehind words (piece ++ ' ' :: rest) (piece.length + (position + 1)) =
      isSpaceBehind words rest position := by
  have htake : (piece ++ ' ' :: rest).take (piece.length + (position + 1)) =
      piece ++ ' ' :: rest.take position := by
    rw [List.take_length_add_append, List.take_succ_cons]
  have hget : (piece ++ ' ' :: rest)[piece.length + (position + 1)]? = rest[position]? := by
    rw [List.getElem?_append_right (Nat.le_add_right _ _), Nat.add_sub_cancel_left,
      List.getElem?_cons_succ]
  rw [isSpaceBehind, htake, hget, endsIn_joined hwords]
  rfl

theorem countP_range_eq_zero (hpiece : ' ' ∉ piece) (rest : List Char) :
    (List.range piece.length).countP (isSpaceBehind words (piece ++ rest)) = 0 := by
  rw [List.countP_eq_zero]
  intro position hposition
  rw [isSpaceBehind_of_lt hpiece rest (List.mem_range.mp hposition)]
  exact Bool.false_ne_true

theorem spacesBehind_of_notMem (hpiece : ' ' ∉ piece) : spacesBehind words piece = 0 := by
  have hnone : (List.range piece.length).countP (isSpaceBehind words (piece ++ [])) = 0 :=
    countP_range_eq_zero hpiece []
  rwa [List.append_nil] at hnone

theorem spacesBehind_joined (hwords : ∀ word ∈ words, ' ' ∉ word) (hpiece : ' ' ∉ piece)
    (rest : List Char) :
    spacesBehind words (piece ++ ' ' :: rest) =
      (if endsIn words piece then 1 else 0) + spacesBehind words rest := by
  rw [spacesBehind, List.length_append, List.length_cons, List.range_add, List.countP_append,
    countP_range_eq_zero hpiece, Nat.zero_add, List.countP_map, List.range_succ_eq_map,
    List.countP_cons, List.countP_map, Function.comp_apply, Nat.add_zero, isSpaceBehind_length,
    Nat.add_comm, spacesBehind]
  congr 1
  refine List.countP_congr fun position _ => ?_
  rw [Function.comp_apply, Function.comp_apply, Nat.succ_eq_add_one, isSpaceBehind_add hwords]

/-! ## One pass -/

theorem passSpaces_of_notMem (hpiece : ' ' ∉ piece) (front : List Char) :
    passSpaces words front piece = 0 := by
  induction piece generalizing front with
  | nil => rfl
  | cons c piece ih =>
    rw [List.mem_cons, not_or] at hpiece
    rw [passSpaces, if_neg (Ne.symm hpiece.1), ih hpiece.2]

theorem passSpaces_joined (hpiece : ' ' ∉ piece) (front rest : List Char) :
    passSpaces words front (piece ++ ' ' :: rest) =
      (if endsIn words (front ++ piece) then 1 else 0) + passSpaces words [] rest := by
  induction piece generalizing front with
  | nil => rw [List.nil_append, passSpaces, if_pos rfl, List.append_nil]
  | cons c piece ih =>
    rw [List.mem_cons, not_or] at hpiece
    rw [List.cons_append, passSpaces, if_neg (Ne.symm hpiece.1), ih hpiece.2,
      List.append_assoc, List.singleton_append]

theorem passSpaces_eq_spacesBehind (hwords : ∀ word ∈ words, ' ' ∉ word) (text : List Char) :
    passSpaces words [] text = spacesBehind words text := by
  induction text using separated_induction ' ' with
  | single piece hpiece => rw [passSpaces_of_notMem hpiece, spacesBehind_of_notMem hpiece]
  | joined piece rest hpiece ih =>
    rw [passSpaces_joined hpiece, spacesBehind_joined hwords hpiece, ih, List.nil_append]

end Words

/-! ## Words with a space behind them -/

section Marker

variable {word piece : List Char}

theorem prefix_joined_iff (hword : ' ' ∉ word) (hpiece : ' ' ∉ piece) (rest : List Char) :
    word ++ [' '] <+: piece ++ ' ' :: rest ↔ word = piece := by
  constructor
  · rintro ⟨more, hmore⟩
    rw [List.append_assoc, List.singleton_append] at hmore
    have hsplit := congrArg (List.splitOn ' ') hmore
    rw [List.splitOn_append_cons_self, List.splitOn_append_cons_self,
      List.splitOn_eq_singleton hword, List.splitOn_eq_singleton hpiece] at hsplit
    exact (List.cons.inj hsplit).1
  · rintro rfl
    exact ⟨rest, by rw [List.append_assoc, List.singleton_append]⟩

theorem occurrencesAfter_append (pattern front rest : List Char) :
    occurrencesAfter pattern front.length (front ++ rest) = occurrencesAfter pattern 0 rest := by
  induction front with
  | nil => rfl
  | cons c front ih => rw [List.length_cons, List.cons_append, occurrencesAfter, ih]

theorem occurrences_of_notMem {pattern : List Char} {c : Char} (hpattern : c ∈ pattern)
    {text : List Char} (h : c ∉ text) : occurrences pattern text = 0 := by
  have hne : pattern ≠ [] := List.ne_nil_of_mem hpattern
  induction text with
  | nil => simp [occurrences, occurrencesAfter, hne]
  | cons d text ih =>
    have hmatch : ¬pattern.isPrefixOf (d :: text) = true := fun hbegins =>
      h ((List.isPrefixOf_iff_prefix.mp hbegins).subset hpattern)
    rw [occurrences, occurrencesAfter, if_neg hmatch]
    exact ih fun hlater => h (List.mem_cons_of_mem d hlater)

/-- A match ends at the space, so that the count goes on right behind it. -/
theorem occurrences_piece (hne : word ≠ []) (hword : ' ' ∉ word) (hpiece : ' ' ∉ piece)
    (rest : List Char) :
    occurrences (word ++ [' ']) (piece ++ ' ' :: rest) =
      (if word.isSuffixOf piece then 1 else 0) + occurrences (word ++ [' ']) rest := by
  induction piece with
  | nil =>
    have hmatch : ¬(word ++ [' ']).isPrefixOf (' ' :: rest) = true := by
      rw [List.isPrefixOf_iff_prefix]
      exact fun h => hne ((prefix_joined_iff hword List.not_mem_nil rest).mp h)
    have hend : ¬word.isSuffixOf [] = true := by simp [hne]
    rw [List.nil_append, occurrences, occurrencesAfter, if_neg hmatch, if_neg hend, Nat.zero_add,
      occurrences]
  | cons c piece ih =>
    have hbegins : (word ++ [' ']).isPrefixOf (c :: piece ++ ' ' :: rest) = true ↔
        word = c :: piece :=
      List.isPrefixOf_iff_prefix.trans (prefix_joined_iff hword hpiece rest)
    rw [List.mem_cons, not_or] at hpiece
    rw [List.cons_append] at hbegins ⊢
    rw [occurrences, occurrencesAfter]
    by_cases hmatch : word = c :: piece
    · have hskip : (word ++ [' ']).length - 1 = (piece ++ [' ']).length := by simp [hmatch]
      have hend : word.isSuffixOf (c :: piece) = true := by simp [hmatch]
      rw [if_pos (hbegins.mpr hmatch), if_pos hend, hskip,
        List.append_cons piece ' ' rest, occurrencesAfter_append, Nat.add_comm, occurrences]
    · have hend : word.isSuffixOf (c :: piece) = word.isSuffixOf piece := by
        rw [Bool.eq_iff_iff, List.isSuffixOf_iff_suffix, List.isSuffixOf_iff_suffix,
          List.suffix_cons_iff, or_iff_right hmatch]
      rw [if_neg (mt hbegins.mp hmatch), hend]
      exact ih hpiece.2

theorem occurrences_eq_spacesBehind (hne : word ≠ []) (hword : ' ' ∉ word) (text : List Char) :
    occurrences (word ++ [' ']) text = spacesBehind [word] text := by
  induction text using separated_induction ' ' with
  | single piece hpiece =>
    have hspace : ' ' ∈ word ++ [' '] := by simp
    rw [occurrences_of_notMem hspace hpiece, spacesBehind_of_notMem hpiece]
  | joined piece rest hpiece ih =>
    rw [occurrences_piece hne hword hpiece, ih,
      spacesBehind_joined (List.forall_mem_singleton.mpr hword) hpiece, endsIn, List.any_cons,
      List.any_nil, Bool.or_false]

end Marker

/-! ## Several words -/

/-- The words differ, and none of them ends in another. -/
structure Apart (words : List (List Char)) : Prop where
  nodup : words.Nodup
  eq_of_suffix : ∀ word ∈ words, ∀ other ∈ words, word <:+ other → word = other

theorem Apart.of_cons {word : List Char} {words : List (List Char)} (h : Apart (word :: words)) :
    Apart words where
  nodup := (List.nodup_cons.mp h.nodup).2
  eq_of_suffix first hfirst second hsecond :=
    h.eq_of_suffix first (List.mem_cons_of_mem word hfirst) second
      (List.mem_cons_of_mem word hsecond)

/-- Of two words at the end of one text, one is at the end of the other. -/
theorem Apart.eq_of_suffixes {words : List (List Char)} (h : Apart words)
    {word other text : List Char} (hword : word ∈ words) (hother : other ∈ words)
    (hend : word <:+ text) (hend' : other <:+ text) : word = other := by
  rcases List.suffix_or_suffix_of_suffix hend hend' with hsuffix | hsuffix
  · exact h.eq_of_suffix word hword other hother hsuffix
  · exact (h.eq_of_suffix other hother word hword hsuffix).symm

theorem Apart.endsIn_eq_false {word : List Char} {words : List (List Char)}
    (h : Apart (word :: words)) {text : List Char} (hend : word <:+ text) :
    endsIn words text = false := by
  rw [endsIn, List.any_eq_false]
  intro other hother hsuffix
  have heq := h.eq_of_suffixes List.mem_cons_self (List.mem_cons_of_mem word hother) hend
    (List.isSuffixOf_iff_suffix.mp hsuffix)
  exact (List.nodup_cons.mp h.nodup).1 (heq ▸ hother)

theorem spacesBehind_cons {word : List Char} {words : List (List Char)}
    (hwords : ∀ other ∈ word :: words, ' ' ∉ other) (hapart : Apart (word :: words))
    (text : List Char) :
    spacesBehind (word :: words) text = spacesBehind [word] text + spacesBehind words text := by
  obtain ⟨hword, hlater⟩ := List.forall_mem_cons.mp hwords
  induction text using separated_induction ' ' with
  | single piece hpiece => simp only [spacesBehind_of_notMem hpiece]
  | joined piece rest hpiece ih =>
    have hone : endsIn [word] piece = word.isSuffixOf piece := by simp [endsIn]
    have hcons : endsIn (word :: words) piece = (word.isSuffixOf piece || endsIn words piece) := by
      simp [endsIn]
    rw [spacesBehind_joined hwords hpiece,
      spacesBehind_joined (List.forall_mem_singleton.mpr hword) hpiece,
      spacesBehind_joined hlater hpiece, ih, hone, hcons]
    by_cases hend : word <:+ piece
    · rw [List.isSuffixOf_iff_suffix.mpr hend, hapart.endsIn_eq_false hend]
      simp only [Bool.true_or, if_true, Bool.false_eq_true, if_false]
      omega
    · rw [Bool.eq_false_iff.mpr (mt List.isSuffixOf_iff_suffix.mp hend)]
      simp only [Bool.false_or, Bool.false_eq_true, if_false]
      omega

theorem spacesBehind_nil (text : List Char) : spacesBehind [] text = 0 := by
  rw [spacesBehind, List.countP_eq_zero]
  intro position _
  simp [isSpaceBehind, endsIn]

theorem sum_occurrences_eq_spacesBehind {words : List (List Char)}
    (hwords : ∀ word ∈ words, word ≠ [] ∧ ' ' ∉ word) (hapart : Apart words) (text : List Char) :
    (words.map fun word => occurrences (word ++ [' ']) text).sum = spacesBehind words text := by
  induction words with
  | nil => rw [List.map_nil, List.sum_nil, spacesBehind_nil]
  | cons word words ih =>
    have hspace : ∀ other ∈ word :: words, ' ' ∉ other := fun other h => (hwords other h).2
    obtain ⟨⟨hne, hword⟩, hlater⟩ := List.forall_mem_cons.mp hwords
    rw [List.map_cons, List.sum_cons, occurrences_eq_spacesBehind hne hword,
      ih hlater hapart.of_cons, spacesBehind_cons hspace hapart]

theorem isSpaceBehind_singleton (word text : List Char) (position : Nat) :
    isSpaceBehind [word] text position =
      (text[position]? == some ' ' && word.isSuffixOf (text.take position)) := by
  simp [isSpaceBehind, endsIn]

theorem countP_isSpaceBehind_le_one {words : List (List Char)} (hapart : Apart words)
    (text : List Char) (position : Nat) :
    words.countP (fun word => isSpaceBehind [word] text position) ≤ 1 := by
  induction words with
  | nil => exact Nat.zero_le 1
  | cons word words ih =>
    rw [List.countP_cons]
    by_cases hend : word <:+ text.take position
    · have hnone := hapart.endsIn_eq_false hend
      rw [endsIn, List.any_eq_false] at hnone
      have hlater : words.countP (fun word => isSpaceBehind [word] text position) = 0 := by
        rw [List.countP_eq_zero]
        intro other hother
        rw [isSpaceBehind_singleton, Bool.eq_false_iff.mpr (hnone other hother), Bool.and_false]
        exact Bool.false_ne_true
      rw [hlater]
      split <;> omega
    · have hfirst : isSpaceBehind [word] text position = false := by
        rw [isSpaceBehind_singleton, Bool.eq_false_iff.mpr (mt List.isSuffixOf_iff_suffix.mp hend),
          Bool.and_false]
      rw [hfirst]
      exact ih hapart.of_cons

end Text
end ScriptReview
