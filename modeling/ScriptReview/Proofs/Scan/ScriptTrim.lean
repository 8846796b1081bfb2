import ScriptReview.Proofs.Scan.Sources
import ScriptReview.Proofs.Text.Occurrences
import ScriptReview.Proofs.Text.Trim
import ScriptReview.Rule.Builtin

/-!
Trimming as scripts do it.

`String.prototype.trim` of ECMAScript takes `WhiteSpace` and `LineTerminator` off both ends of a
text. These are the blank characters but for one, the next line character U+0085, which is white
space in Unicode only. `trim_agrees_iff` says on which texts this can be seen: in the code of an
issue, in the test for a missing semicolon, and in the answer whether a text is blank.
-/

namespace ScriptReview
namespace Text

/-- The general category `Zs`. -/
def isSpaceSeparator (c : Char) : Bool :=
  let n := c.toNat
  n == 0x20 || n == 0xA0 || n == 0x1680 || (0x2000 ≤ n && n ≤ 0x200A) || n == 0x202F ||
    n == 0x205F || n == 0x3000

/-- `WhiteSpace` of ECMAScript. -/
def isScriptSpace (c : Char) : Bool :=
  let n := c.toNat
  n == 0x9 || n == 0xB || n == 0xC || n == 0xFEFF || isSpaceSeparator c

/-- `LineTerminator` of ECMAScript. -/
def isScriptLineEnd (c : Char) : Bool :=
  let n := c.toNat
  n == 0xA || n == 0xD || n == 0x2028 || n == 0x2029

def isScriptBlank (c : Char) : Bool :=
  isScriptSpace c || isScriptLineEnd c

/-- What `String.prototype.trim` leaves of the text. -/
def scriptTrim (text : List Char) : List Char :=
  trimBy isScriptBlank text

/-- The control character that ends a line in Unicode, but not in ECMAScript. -/
def nextLine : Char := '\u0085'

/-- What a script leaves of the text begins or ends with the next line character. -/
def LeavesNextLine (text : List Char) : Prop :=
  nextLine ∈ (scriptTrim text).head? ∨ nextLine ∈ (scriptTrim text).getLast?

/-! ## The two classes -/

theorem isBlank_eq (c : Char) : isBlank c = (isScriptBlank c || c == nextLine) := by
  have hmark : c = '\uFEFF' ↔ c.toNat = 0xFEFF := by
    rw [← Char.toNat_inj]
    rfl
  have hnext : c = nextLine ↔ c.toNat = 0x85 := by
    rw [← Char.toNat_inj]
    rfl
  rw [Bool.eq_iff_iff]
  simp only [isBlank, isWhiteSpace, isScriptBlank, isScriptSpace, isSpaceSeparator,
    isScriptLineEnd, Bool.or_eq_true, Bool.and_eq_true, beq_iff_eq, decide_eq_true_eq, hmark, hnext]
  omega

theorem isBlank_of_isScriptBlank {c : Char} (h : isScriptBlank c = true) : isBlank c = true := by
  rw [isBlank_eq, h, Bool.true_or]

/-- Of the characters that scripts keep, only the next line is blank. -/
theorem forall_isBlank_eq_false_iff {last : Option Char}
    (h : ∀ c ∈ last, isScriptBlank c = false) :
    (∀ c ∈ last, isBlank c = false) ↔ nextLine ∉ last := by
  cases last with
  | none => exact iff_of_true nofun nofun
  | some c =>
    have hc : isScriptBlank c = false := h c rfl
    simp only [Option.mem_def, Option.some.injEq, forall_eq', isBlank_eq c, hc, Bool.false_or,
      beq_eq_false_iff_ne, ne_eq]

/-! ## Trimming -/

variable {text : List Char}

/-- Trimming goes on where a script stops. -/
theorem trim_scriptTrim (text : List Char) : trim (scriptTrim text) = trim text := by
  obtain ⟨front, back, hfront, hback, htext⟩ := exists_append_trimBy isScriptBlank text
  have htrim := trim_append_append (fun c hc => isBlank_of_isScriptBlank (hfront c hc))
    (fun c hc => isBlank_of_isScriptBlank (hback c hc)) (trimBy isScriptBlank text)
  rw [htext] at htrim
  exact htrim.symm

theorem trim_eq_scriptTrim_iff : trim text = scriptTrim text ↔ ¬LeavesNextLine text := by
  have hfirst : (∀ c ∈ (scriptTrim text).head?, isBlank c = false) ↔
      nextLine ∉ (scriptTrim text).head? :=
    forall_isBlank_eq_false_iff fun c => head?_trimBy
  have hlast : (∀ c ∈ (scriptTrim text).getLast?, isBlank c = false) ↔
      nextLine ∉ (scriptTrim text).getLast? :=
    forall_isBlank_eq_false_iff fun c => getLast?_trimBy
  rw [← trim_scriptTrim, trim_eq_trimBy, trimBy_eq_self_iff, LeavesNextLine, not_or, hfirst, hlast]

/-- A text is blank for one and not for the other if it is blank and has a next line in it. -/
theorem isAllBlank_eq_isEmpty_iff :
    isAllBlank text = (scriptTrim text).isEmpty ↔
      ¬(nextLine ∈ text ∧ ∀ c ∈ text, isBlank c = true) := by
  rw [Bool.eq_iff_iff, isAllBlank_iff, List.isEmpty_iff, scriptTrim, trimBy_eq_nil_iff]
  constructor
  · rintro h ⟨hmem, hblank⟩
    have hscript : isScriptBlank nextLine = true := h.mp hblank nextLine hmem
    revert hscript
    decide
  · intro h
    refine ⟨fun hblank c hc => ?_, fun hscript c hc => isBlank_of_isScriptBlank (hscript c hc)⟩
    have hne : c ≠ nextLine := fun heq => h ⟨heq ▸ hc, hblank⟩
    have hc := hblank c hc
    rw [isBlank_eq, beq_false_of_ne hne, Bool.or_false] at hc
    exact hc

end Text

namespace Builtin

/-- The test of `missingSemicolon` with a way of trimming. -/
def isUnclosed (trim : List Char → List Char) (line : List Char) : Bool :=
  !(trim line).isEmpty && !endsClosed (trim line) && !holds line "//" && holds line "return "

theorem flags_missingSemicolon (line : List Char) :
    missingSemicolon.flags line = isUnclosed Text.trim line := rfl

/-- On a line with a `return` and no comment, a next line character at the end hides from a script
that the code before it is closed. -/
def HidesClosing (line : List Char) : Prop :=
  holds line "return " = true ∧ holds line "//" = false ∧
    Text.nextLine ∈ (Text.scriptTrim line).getLast? ∧ endsClosed (Text.trim line) = true

section Line

variable {line : List Char}

theorem endsClosed_of_nextLine (h : Text.nextLine ∈ line.getLast?) : endsClosed line = false := by
  rw [endsClosed, Option.mem_def.mp h]
  decide

theorem endsClosed_trim_eq (hne : Text.scriptTrim line ≠ [])
    (h : Text.nextLine ∉ (Text.scriptTrim line).getLast?) :
    endsClosed (Text.trim line) = endsClosed (Text.scriptTrim line) := by
  have hlast := List.getLast?_eq_some_getLast hne
  have hblank : ∀ c ∈ (Text.scriptTrim line).getLast?, Text.isBlank c = false :=
    (Text.forall_isBlank_eq_false_iff fun c => Text.getLast?_trimBy).mpr h
  rw [← Text.trim_scriptTrim, endsClosed, endsClosed, Text.trim_eq_trimBy,
    Text.getLast?_trimBy_of_mem hlast (hblank _ hlast), hlast]

theorem flags_missingSemicolon_eq_iff :
    missingSemicolon.flags line = isUnclosed Text.scriptTrim line ↔ ¬HidesClosing line := by
  rw [flags_missingSemicolon, isUnclosed, isUnclosed, HidesClosing]
  cases hreturn : holds line "return " with
  | false => simp
  | true =>
    cases hcomment : holds line "//" with
    | true => simp
    | false =>
      -- What is left of the line is not empty, since the letters of `return` are in it.
      have hr : 'r' ∈ line := Text.mem_of_occurs hreturn (by decide)
      have htrim : (Text.trim line).isEmpty = false := by
        rw [List.isEmpty_eq_false_iff]
        exact fun hnil => absurd (Text.trimBy_eq_nil_iff.mp hnil 'r' hr) (by decide)
      have hscript : Text.scriptTrim line ≠ [] :=
        fun hnil => absurd (Text.trimBy_eq_nil_iff.mp hnil 'r' hr) (by decide)
      rw [htrim, List.isEmpty_eq_false_iff.mpr hscript]
      by_cases hlast : Text.nextLine ∈ (Text.scriptTrim line).getLast?
      · simp [endsClosed_of_nextLine hlast, hlast]
      · simp [endsClosed_trim_eq hscript hlast, hlast]

end Line

/-- Trimming agrees with that of scripts on each text but those of which a script leaves a next line
character at one of the ends. Issues show their code accordingly. The test for a missing semicolon
agrees but for lines whose closing sign is hidden behind a next line character, and the question
whether a text is blank but for texts of blank characters with a next line among them. -/
theorem trim_agrees_iff (text : List Char) :
    (Text.trim text = Text.scriptTrim text ↔ ¬Text.LeavesNextLine text) ∧
      (∀ (rule : LineRule) (number : Count), ∀ issue ∈ rule.check number text,
        issue.code = String.ofList (Text.scriptTrim text) ↔ ¬Text.LeavesNextLine text) ∧
      (missingSemicolon.flags text = isUnclosed Text.scriptTrim text ↔ ¬HidesClosing text) ∧
      (Text.isAllBlank text = (Text.scriptTrim text).isEmpty ↔
        ¬(Text.nextLine ∈ text ∧ ∀ c ∈ text, Text.isBlank c = true)) := by
  refine ⟨Text.trim_eq_scriptTrim_iff, fun rule number issue hissue => ?_,
    flags_missingSemicolon_eq_iff, Text.isAllBlank_eq_isEmpty_iff⟩
  obtain ⟨-, rfl⟩ := LineRule.check_eq_some_iff.mp hissue
  rw [LineRule.issueOn, String.ofList_inj, Text.trim_eq_scriptTrim_iff]

/-- A next line character alone is trimmed away, and behind a closed line it is not seen. -/
theorem trim_nextLine :
    Text.trim [Text.nextLine] = [] ∧ Text.scriptTrim [Text.nextLine] = [Text.nextLine] ∧
      Text.isAllBlank [Text.nextLine] = true ∧
      missingSemicolon.flags "return x;\u0085".toList = false ∧
      isUnclosed Text.scriptTrim "return x;\u0085".toList = true := by
  decide

end Builtin
end ScriptReview
