import Mathlib.Data.List.DropRight
import Mathlib.Data.List.TakeWhile
import ScriptReview.Text.Blank

/-!
Trimming.

Characters that trimming takes off may as well not be there (`trim_append_append`). Trimming runs
into the characters behind the text only if nothing is left of the text itself. The same can be done
with other characters than the blank ones (`trimBy`): what is left neither begins nor ends with one
of them, and a text that does not is left as it is (`trimBy_eq_self_iff`). So there is only one way
to take a text apart into blank ends and a core that neither begins nor ends blank, and trimming
gives this core (`trim_isCore`).
-/

namespace ScriptReview
namespace Text

theorem trimStart_append {front : List Char} (h : ∀ c ∈ front, isBlank c = true)
    (text : List Char) : trimStart (front ++ text) = trimStart text :=
  List.dropWhile_append_of_pos h

theorem trimEnd_append {back : List Char} (h : ∀ c ∈ back, isBlank c = true)
    (text : List Char) : trimEnd (text ++ back) = trimEnd text := by
  have hreverse : ∀ c ∈ back.reverse, isBlank c = true := fun c hc => h c (List.mem_reverse.mp hc)
  rw [trimEnd, trimEnd, List.reverse_append, trimStart_append hreverse]

theorem mem_of_mem_trim {text : List Char} {c : Char} (h : c ∈ trim text) : c ∈ text := by
  rw [trim, trimEnd, List.mem_reverse] at h
  exact List.dropWhile_subset _ (List.mem_reverse.mp (List.dropWhile_subset _ h))

/-- Blank characters at both ends do not show after trimming. -/
theorem trim_append_append {front back : List Char} (hfront : ∀ c ∈ front, isBlank c = true)
    (hback : ∀ c ∈ back, isBlank c = true) (text : List Char) :
    trim (front ++ text ++ back) = trim text := by
  rw [trim, trim, List.append_assoc, trimStart_append hfront]
  by_cases htext : trimStart text = []
  · -- Nothing is left of the text, and so trimming goes on into the padding behind it.
    have hblank : ∀ c ∈ text ++ back, isBlank c = true := by
      intro c hc
      rcases List.mem_append.mp hc with hc | hc
      · exact List.dropWhile_eq_nil_iff.mp htext c hc
      · exact hback c hc
    rw [htext, trimStart, List.dropWhile_eq_nil_iff.mpr hblank]
  · have hshown : (text.dropWhile isBlank).isEmpty = false := by
      simpa [trimStart] using htext
    have hstart : trimStart (text ++ back) = trimStart text ++ back := by
      rw [trimStart, List.dropWhile_append, hshown]
      rfl
    rw [hstart, trimEnd_append hback]

/-! ## Other classes of characters -/

/-- The text without the characters of a class at its ends. -/
def trimBy (inClass : Char → Bool) (text : List Char) : List Char :=
  (text.dropWhile inClass).rdropWhile inClass

section Class

variable {inClass : Char → Bool} {text : List Char}

theorem trim_eq_trimBy (text : List Char) : trim text = trimBy isBlank text := rfl

theorem exists_append_trimBy (inClass : Char → Bool) (text : List Char) :
    ∃ front back, (∀ c ∈ front, inClass c = true) ∧ (∀ c ∈ back, inClass c = true) ∧
      front ++ trimBy inClass text ++ back = text := by
  refine ⟨text.takeWhile inClass, (text.dropWhile inClass).rtakeWhile inClass, ?_, ?_, ?_⟩
  · exact fun c hc => List.mem_takeWhile_imp hc
  · exact fun c hc => List.mem_rtakeWhile_imp hc
  · rw [trimBy, List.append_assoc, List.rdropWhile_append_rtakeWhile,
      List.takeWhile_append_dropWhile]

theorem trimBy_eq_nil_iff : trimBy inClass text = [] ↔ ∀ c ∈ text, inClass c = true := by
  rw [trimBy, List.rdropWhile_eq_nil_iff]
  constructor
  · intro h c hc
    rw [← List.takeWhile_append_dropWhile (p := inClass) (l := text), List.mem_append] at hc
    rcases hc with hc | hc
    · exact List.mem_takeWhile_imp hc
    · exact h c hc
  · exact fun h c hc => h c (List.dropWhile_subset _ hc)

theorem isAllBlank_iff : isAllBlank text = true ↔ ∀ c ∈ text, isBlank c = true := by
  rw [isAllBlank, List.isEmpty_iff, trim_eq_trimBy, trimBy_eq_nil_iff]

theorem trimBy_isInfix (inClass : Char → Bool) (text : List Char) :
    trimBy inClass text <:+: text := by
  obtain ⟨front, back, -, -, htext⟩ := exists_append_trimBy inClass text
  exact ⟨front, back, htext⟩

/-- A map that keeps the class apart from other characters goes through trimming. -/
theorem map_trimBy {β : Type} (f : Char → β) (inClass : β → Bool) (text : List Char) :
    (trimBy (inClass ∘ f) text).map f = ((text.map f).dropWhile inClass).rdropWhile inClass := by
  rw [trimBy, List.rdropWhile, List.rdropWhile, List.dropWhile_map, ← List.map_reverse,
    List.dropWhile_map, List.map_reverse]

theorem head?_trimBy {c : Char} (h : c ∈ (trimBy inClass text).head?) : inClass c = false := by
  have hprefix : trimBy inClass text <+: text.dropWhile inClass := List.rdropWhile_prefix inClass _
  obtain ⟨more, hmore⟩ := hprefix
  have hhead : c ∈ (text.dropWhile inClass).head? := by
    rw [← hmore, List.head?_append, h]
    rfl
  have hnot := List.head?_dropWhile_not inClass text
  rw [hhead] at hnot
  exact hnot

theorem getLast?_trimBy {c : Char} (h : c ∈ (trimBy inClass text).getLast?) :
    inClass c = false := by
  have hne : trimBy inClass text ≠ [] := by
    intro hnil
    rw [hnil] at h
    cases h
  rw [List.getLast?_eq_some_getLast hne] at h
  cases h
  exact Bool.eq_false_iff.mpr (List.rdropWhile_last_not inClass _ hne)

/-- A character at the end that is not of the class stays there. -/
theorem getLast?_trimBy_of_mem {c : Char} (hlast : c ∈ text.getLast?) (hc : inClass c = false) :
    (trimBy inClass text).getLast? = some c := by
  obtain ⟨front, back, hfront, hback, htext⟩ := exists_append_trimBy inClass text
  have hnot : ∀ chars : List Char, (∀ d ∈ chars, inClass d = true) → chars.getLast? ≠ some c := by
    intro chars hchars hmem
    rw [hchars c (List.mem_of_getLast? hmem)] at hc
    cases hc
  rw [← htext, Option.mem_def] at hlast
  cases hend : back.getLast? with
  | some d =>
    rw [List.getLast?_append, hend] at hlast
    exact absurd (hend.trans hlast) (hnot back hback)
  | none =>
    rw [List.getLast?_append, hend, Option.none_or, List.getLast?_append] at hlast
    cases hcore : (trimBy inClass text).getLast? with
    | some d => simpa [hcore] using hlast
    | none =>
      rw [hcore, Option.none_or] at hlast
      exact absurd hlast (hnot front hfront)

theorem trimBy_eq_self_iff :
    trimBy inClass text = text ↔
      (∀ c ∈ text.head?, inClass c = false) ∧ ∀ c ∈ text.getLast?, inClass c = false := by
  constructor
  · intro h
    exact ⟨fun c hc => head?_trimBy (h.symm ▸ hc), fun c hc => getLast?_trimBy (h.symm ▸ hc)⟩
  · rintro ⟨hfirst, hlast⟩
    have hdrop : text.dropWhile inClass = text := by
      cases text with
      | nil => rfl
      | cons c rest =>
        have hc := hfirst c rfl
        exact List.dropWhile_cons_of_neg (by simp [hc])
    rw [trimBy, hdrop, List.rdropWhile_eq_self_iff]
    intro hne
    rw [hlast _ (List.getLast?_eq_some_getLast hne)]
    exact Bool.false_ne_true

end Class

/-! ## The core of a text -/

/-- The core of a text has only blank characters around it and none of them at its own ends. -/
structure IsCore (text core : List Char) : Prop where
  within : ∃ front back, (∀ c ∈ front, isBlank c = true) ∧ (∀ c ∈ back, isBlank c = true) ∧
    text = front ++ core ++ back
  first : ∀ c ∈ core.head?, isBlank c = false
  last : ∀ c ∈ core.getLast?, isBlank c = false

section Core

variable {text core : List Char}

theorem isCore_trim (text : List Char) : IsCore text (trim text) := by
  obtain ⟨front, back, hfront, hback, htext⟩ := exists_append_trimBy isBlank text
  exact ⟨⟨front, back, hfront, hback, htext.symm⟩, fun c hc => head?_trimBy hc,
    fun c hc => getLast?_trimBy hc⟩

theorem IsCore.trim_self (h : IsCore text core) : trim core = core :=
  trimBy_eq_self_iff.mpr ⟨h.first, h.last⟩

/-- The blank ends fall away, and then there is nothing left to take off. -/
theorem IsCore.eq_trim (h : IsCore text core) : core = trim text := by
  obtain ⟨front, back, hfront, hback, htext⟩ := h.within
  calc core = trim core := h.trim_self.symm
    _ = trim (front ++ core ++ back) := (trim_append_append hfront hback core).symm
    _ = trim text := by rw [htext]

end Core

/-- What trimming leaves of a text is its core, and a text has only one. Hence trimming a second
time changes nothing, and neither do blank characters that are put around the text. -/
theorem trim_isCore (text : List Char) :
    IsCore text (trim text) ∧
      (∀ core, IsCore text core → core = trim text) ∧
      trim (trim text) = trim text ∧
      ∀ front back, (∀ c ∈ front, isBlank c = true) → (∀ c ∈ back, isBlank c = true) →
        trim (front ++ text ++ back) = trim text := by
  refine ⟨isCore_trim text, ?_, (isCore_trim text).trim_self, ?_⟩
  · intro core hcore
    exact hcore.eq_trim
  · intro front back hfront hback
    exact trim_append_append hfront hback text

/-- A blank character inside the core stays there. -/
theorem trim_isCore_inner :
    IsCore "\uFEFF\n a\u00A0b \t".toList "a\u00A0b".toList ∧
      trim "\uFEFF\n a\u00A0b \t".toList = "a\u00A0b".toList ∧
      trim ("\u2003".toList ++ "\uFEFF\n a\u00A0b \t".toList ++ "\r\n".toList) =
        "a\u00A0b".toList := by
  obtain ⟨-, hunique, -, hpadded⟩ := trim_isCore "\uFEFF\n a\u00A0b \t".toList
  have hblank {chars : List Char} (h : chars.all isBlank = true) : ∀ c ∈ chars, isBlank c = true :=
    List.all_eq_true.mp h
  have hcore : IsCore "\uFEFF\n a\u00A0b \t".toList "a\u00A0b".toList := by
    refine ⟨⟨"\uFEFF\n ".toList, " \t".toList, hblank (by decide), hblank (by decide), by decide⟩,
      fun c hc => ?_, fun c hc => ?_⟩
    · have hfirst : 'a' = c := Option.some.inj hc
      rw [← hfirst]
      decide
    · have hlast : 'b' = c := Option.some.inj hc
      rw [← hlast]
      decide
  have htrim : trim "\uFEFF\n a\u00A0b \t".toList = "a\u00A0b".toList :=
    (hunique "a\u00A0b".toList hcore).symm
  refine ⟨hcore, htrim, ?_⟩
  rw [hpadded "\u2003".toList "\r\n".toList (hblank (by decide)) (hblank (by decide)), htrim]

end Text
end ScriptReview
