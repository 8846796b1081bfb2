import ScriptReview.Proofs.Text.Joined
import ScriptReview.Proofs.Text.Occurrences

/-!
Texts with a word replaced.

A word gives way to another one of the same length, with the same last character, wherever it
appears. A pattern is found at the same positions before and after if it can overlap neither of the
two words in more than that last character (`prefix_drop_replaceAll_iff`). The conditions are about
the three words only and can be decided. They are also what is needed for the old word to be gone
(`occurs_replaceAll_self`): what the new word brings in must not be a part of a new appearance of
the old one. Replacing goes line by line (`lines_replaceAll`).
-/

namespace ScriptReview
namespace Text

/-- The text with the old word replaced by the new one once the next `skip` characters are left out.
They belong to an appearance that has been replaced. -/
def replaceAfter (old new : List Char) : Nat → List Char → List Char
  | _, [] => []
  | skip + 1, _ :: text => replaceAfter old new skip text
  | 0, c :: text =>
    if old.isPrefixOf (c :: text) then
      new ++ replaceAfter old new (old.length - 1) text
    else
      c :: replaceAfter old new 0 text

/-- The text with every appearance of the old word replaced by the new one, from the left. The old
word is not empty. -/
def replaceAll (old new text : List Char) : List Char :=
  replaceAfter old new 0 text

/-- The two can stand at one place of a text: one of them begins with the other. -/
def Fits (first second : List Char) : Prop :=
  first <+: second ∨ second <+: first

instance (first second : List Char) : Decidable (Fits first second) :=
  inferInstanceAs (Decidable (_ ∨ _))

/-- No end of the pattern can stand where the word begins. -/
def EndsBefore (pattern word : List Char) : Prop :=
  ∀ rest ∈ pattern.tails, rest ≠ [] → ¬Fits rest word

instance (pattern word : List Char) : Decidable (EndsBefore pattern word) :=
  inferInstanceAs (Decidable (∀ rest ∈ pattern.tails, rest ≠ [] → ¬Fits rest word))

/-- The pattern cannot overlap the word, except that it can begin with the last character of it. -/
def Avoids (pattern word : List Char) : Prop :=
  EndsBefore pattern word ∧ ∀ rest ∈ word.tails, 2 ≤ rest.length → ¬Fits pattern rest

instance (pattern word : List Char) : Decidable (Avoids pattern word) :=
  inferInstanceAs
    (Decidable (_ ∧ ∀ rest ∈ word.tails, 2 ≤ rest.length → ¬Fits pattern rest))

section Replace

variable {old new : List Char}

/-! ## Replacing from the left -/

theorem replaceAll_nil : replaceAll old new [] = [] := rfl

theorem replaceAll_cons {c : Char} {text : List Char} (h : ¬old <+: c :: text) :
    replaceAll old new (c :: text) = c :: replaceAll old new text := by
  rw [replaceAll, replaceAfter, if_neg (mt List.isPrefixOf_iff_prefix.mp h), replaceAll]

theorem replaceAfter_append (front text : List Char) :
    replaceAfter old new front.length (front ++ text) = replaceAfter old new 0 text := by
  induction front with
  | nil => rfl
  | cons c front ih => rw [List.length_cons, List.cons_append, replaceAfter, ih]

theorem replaceAll_append (h : old ≠ []) (text : List Char) :
    replaceAll old new (old ++ text) = new ++ replaceAll old new text := by
  cases old with
  | nil => exact absurd rfl h
  | cons c rest =>
    have hmatch : (c :: rest).isPrefixOf (c :: (rest ++ text)) = true :=
      List.isPrefixOf_iff_prefix.mpr (List.prefix_append (c :: rest) text)
    rw [replaceAll, List.cons_append, replaceAfter, if_pos hmatch, List.length_cons,
      Nat.add_sub_cancel, replaceAfter_append, replaceAll]

/-- A text is empty, begins with a character that stays, or begins with the old word. -/
@[elab_as_elim]
theorem replace_induction (old : List Char) (h : old ≠ []) {motive : List Char → Prop}
    (nil : motive [])
    (keep : ∀ c text, ¬old <+: c :: text → motive text → motive (c :: text))
    (found : ∀ text, motive text → motive (old ++ text)) (text : List Char) : motive text := by
  induction hlength : text.length using Nat.strong_induction_on generalizing text with
  | _ length ih =>
    by_cases hmatch : old <+: text
    · obtain ⟨rest, rfl⟩ := hmatch
      have hold : 0 < old.length := List.length_pos_of_ne_nil h
      rw [List.length_append] at hlength
      exact found rest (ih rest.length (by omega) rest rfl)
    · cases text with
      | nil => exact nil
      | cons c text =>
        rw [List.length_cons] at hlength
        exact keep c text hmatch (ih text.length (by omega) text rfl)

theorem mem_replaceAll (h : old ≠ []) {text : List Char} {c : Char}
    (hc : c ∈ replaceAll old new text) : c ∈ text ∨ c ∈ new := by
  induction text using replace_induction old h with
  | nil => exact Or.inl hc
  | keep d text hmatch ih =>
    rw [replaceAll_cons hmatch, List.mem_cons] at hc
    rcases hc with hc | hc
    · exact Or.inl (hc ▸ List.mem_cons_self)
    · exact (ih hc).imp_left (List.mem_cons_of_mem d)
  | found text ih =>
    rw [replaceAll_append h, List.mem_append] at hc
    rcases hc with hc | hc
    · exact Or.inr hc
    · exact (ih hc).imp_left (List.mem_append_right old)

/-- What cannot tell the two words apart cannot tell the texts apart. -/
theorem map_replaceAll {β : Type} {f : Char → β} (h : old ≠ []) (hwords : new.map f = old.map f)
    (text : List Char) : (replaceAll old new text).map f = text.map f := by
  induction text using replace_induction old h with
  | nil => rfl
  | keep c text hmatch ih => rw [replaceAll_cons hmatch, List.map_cons, List.map_cons, ih]
  | found text ih => rw [replaceAll_append h, List.map_append, List.map_append, hwords, ih]

/-! ## Line by line -/

theorem replaceAll_joined {separator : Char} (h : old ≠ []) (hseparator : separator ∉ old)
    (a b : List Char) :
    replaceAll old new (a ++ separator :: b) =
      replaceAll old new a ++ separator :: replaceAll old new b := by
  have hbegins : ∀ a, old <+: a ++ separator :: b ↔ old <+: a := fun a => by
    rw [← List.isPrefixOf_iff_prefix, ← List.isPrefixOf_iff_prefix,
      isPrefixOf_joined hseparator]
  induction a using replace_induction old h with
  | nil =>
    have hmatch : ¬old <+: [] ++ separator :: b := fun hfound =>
      h (List.prefix_nil.mp ((hbegins []).mp hfound))
    exact replaceAll_cons hmatch
  | keep c a hmatch ih =>
    have hlonger : ¬old <+: c :: (a ++ separator :: b) := mt (hbegins (c :: a)).mp hmatch
    rw [List.cons_append, replaceAll_cons hlonger, replaceAll_cons hmatch, ih, List.cons_append]
  | found a ih =>
    rw [List.append_assoc, replaceAll_append h, replaceAll_append h, ih, List.append_assoc]

theorem lines_replaceAll (h : old ≠ []) (hold : '\n' ∉ old) (hnew : '\n' ∉ new)
    (text : List Char) :
    lines (replaceAll old new text) = (lines text).map (replaceAll old new) := by
  have hline : ∀ line, '\n' ∉ line → '\n' ∉ replaceAll old new line := by
    intro line hline hmem
    rcases mem_replaceAll h hmem with hmem | hmem
    · exact hline hmem
    · exact hnew hmem
  induction text using lines_induction with
  | single line hsingle =>
    rw [lines_of_notMem hsingle, lines_of_notMem (hline line hsingle), List.map_singleton]
  | joined line rest hsingle ih =>
    rw [replaceAll_joined h hold, lines_joined, lines_joined, ih, lines_of_notMem hsingle,
      lines_of_notMem (hline line hsingle), List.map_append, List.map_singleton]

end Replace

/-! ## Patterns that avoid the words -/

theorem fits_of_isPrefix {first second text : List Char} (hfirst : first <+: text)
    (hsecond : second <+: text) : Fits first second :=
  List.prefix_or_prefix_of_prefix hfirst hsecond

theorem EndsBefore.of_cons {c : Char} {pattern word : List Char}
    (h : EndsBefore (c :: pattern) word) : EndsBefore pattern word := by
  intro rest hrest
  rw [List.mem_tails] at hrest
  exact h rest ((List.mem_tails _ _).mpr (hrest.trans (List.suffix_cons c pattern)))

theorem EndsBefore.not_isPrefix {pattern word : List Char} (h : EndsBefore pattern word)
    (hne : pattern ≠ []) (text : List Char) : ¬pattern <+: word ++ text := by
  intro hbegins
  have hself : pattern ∈ pattern.tails := (List.mem_tails _ _).mpr List.suffix_rfl
  exact h pattern hself hne (fits_of_isPrefix hbegins (List.prefix_append word text))

/-- A pattern that ends before the words is at the beginning of a text before and after. -/
theorem prefix_replaceAll_iff {old new pattern : List Char} (hne : old ≠ [])
    (hold : EndsBefore pattern old) (hnew : EndsBefore pattern new) (text : List Char) :
    pattern <+: replaceAll old new text ↔ pattern <+: text := by
  induction text using replace_induction old hne generalizing pattern with
  | nil => rfl
  | keep c text hmatch ih =>
    cases pattern with
    | nil => exact iff_of_true List.nil_prefix List.nil_prefix
    | cons p pattern =>
      rw [replaceAll_cons hmatch, List.cons_prefix_cons, List.cons_prefix_cons,
        ih hold.of_cons hnew.of_cons]
  | found text ih =>
    cases pattern with
    | nil => exact iff_of_true List.nil_prefix List.nil_prefix
    | cons p pattern =>
      rw [replaceAll_append hne]
      exact iff_of_false (hnew.not_isPrefix (List.cons_ne_nil p pattern) _)
        (hold.not_isPrefix (List.cons_ne_nil p pattern) _)

/-! ## Two words with the same last character

The words are `front` and `front'`, each with the character `last` behind it. -/

section Words

variable {front front' pattern : List Char} {last : Char}

theorem drop_word_append (front text : List Char) (last : Char) (more : Nat) :
    (front ++ [last] ++ text).drop (front.length + more) = (last :: text).drop more := by
  rw [List.append_assoc, List.singleton_append, List.drop_length_add_append]

/-- The pattern is not found before the last character of the word. -/
theorem Avoids.not_prefix_drop (h : Avoids pattern (front ++ [last])) {position : Nat}
    (hposition : position < front.length) (text : List Char) :
    ¬pattern <+: (front ++ [last] ++ text).drop position := by
  intro hbegins
  have hlength : position ≤ (front ++ [last]).length := by
    rw [List.length_append]
    omega
  rw [List.drop_append_of_le_length hlength] at hbegins
  have htail : (front ++ [last]).drop position ∈ (front ++ [last]).tails :=
    (List.mem_tails _ _).mpr (List.drop_suffix position _)
  refine h.2 _ htail ?_ (fits_of_isPrefix hbegins (List.prefix_append _ text))
  rw [List.length_drop, List.length_append, List.length_singleton]
  omega

theorem prefix_drop_replaceAll_iff (hlength : front'.length = front.length)
    (hold : Avoids pattern (front ++ [last])) (hnew : Avoids pattern (front' ++ [last]))
    (text : List Char) (position : Nat) :
    pattern <+: (replaceAll (front ++ [last]) (front' ++ [last]) text).drop position ↔
      pattern <+: text.drop position := by
  have hne : front ++ [last] ≠ [] := List.concat_ne_nil last front
  induction text using replace_induction _ hne generalizing position with
  | nil => rfl
  | keep c text hmatch ih =>
    cases position with
    | zero => exact prefix_replaceAll_iff hne hold.1 hnew.1 (c :: text)
    | succ position =>
      rw [replaceAll_cons hmatch, List.drop_succ_cons, List.drop_succ_cons]
      exact ih position
  | found text ih =>
    rw [replaceAll_append hne]
    by_cases hposition : position < front.length
    · exact iff_of_false (hnew.not_prefix_drop (hlength ▸ hposition) _)
        (hold.not_prefix_drop hposition text)
    · obtain ⟨more, rfl⟩ := Nat.exists_eq_add_of_le (Nat.le_of_not_lt hposition)
      rw [drop_word_append, ← hlength, drop_word_append]
      cases more with
      | succ more =>
        rw [List.drop_succ_cons, List.drop_succ_cons]
        exact ih more
      | zero =>
        -- Both texts go on from the last character of the word.
        rw [List.drop_zero, List.drop_zero]
        cases pattern with
        | nil => exact iff_of_true List.nil_prefix List.nil_prefix
        | cons p pattern =>
          rw [List.cons_prefix_cons, List.cons_prefix_cons,
            prefix_replaceAll_iff hne hold.1.of_cons hnew.1.of_cons]

end Words

/-! ## The old word -/

/-- The old word is gone. An appearance could only be new in that its first character stood before
the rest already, or in that it began inside the new word. -/
theorem occurs_replaceAll_self {old new : List Char} (hne : old ≠ []) (hnew : EndsBefore new old)
    (hrest : EndsBefore old.tail old) (hrest' : EndsBefore old.tail new) (text : List Char) :
    occurs old (replaceAll old new text) = false := by
  rw [Bool.eq_false_iff, Ne, occurs_iff_isInfix, infix_iff_exists_drop, not_exists]
  intro position
  induction text using replace_induction old hne generalizing position with
  | nil =>
    rw [replaceAll_nil, List.drop_nil, List.prefix_nil]
    exact hne
  | keep c text hmatch ih =>
    rw [replaceAll_cons hmatch]
    cases position with
    | succ position => exact ih position
    | zero =>
      cases old with
      | nil => exact absurd rfl hne
      | cons first rest =>
        intro hbegins
        obtain ⟨hfirst, htail⟩ := List.cons_prefix_cons.mp hbegins
        have hsame : rest <+: text := (prefix_replaceAll_iff hne hrest hrest' text).mp htail
        exact hmatch (List.cons_prefix_cons.mpr ⟨hfirst, hsame⟩)
  | found text ih =>
    rw [replaceAll_append hne]
    by_cases hposition : position < new.length
    · intro hbegins
      rw [List.drop_append_of_le_length (Nat.le_of_lt hposition)] at hbegins
      have htail : new.drop position ∈ new.tails :=
        (List.mem_tails _ _).mpr (List.drop_suffix position new)
      have hlonger : new.drop position ≠ [] := by
        rw [Ne, List.drop_eq_nil_iff]
        omega
      exact hnew _ htail hlonger (fits_of_isPrefix (List.prefix_append _ _) hbegins)
    · obtain ⟨more, rfl⟩ := Nat.exists_eq_add_of_le (Nat.le_of_not_lt hposition)
      rw [List.drop_length_add_append]
      exact ih more

end Text
end ScriptReview
