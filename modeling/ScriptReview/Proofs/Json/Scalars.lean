import ScriptReview.Json.Printer
import ScriptReview.Json.Reader
import ScriptReview.Proofs.Text.Digits

/-!
Reading written strings and numbers.

The readers are followed with the rest of the text behind what they read. A string ends with its
quote, whatever comes next (`string?_printString`). A number could run on into the rest, so that the
rest must not begin with a character that a number can hold (`number?_printNumber`). Neither is ever
written with a line feed.
-/

namespace ScriptReview
namespace Json

open Text

/-! ## Strings -/

/-- The hexadecimal digits of a character, with zeros in front up to four digits. -/
def paddedCode (c : Char) : List Char :=
  List.replicate (4 - (Nat.toDigits 16 c.toNat).length) '0' ++ Nat.toDigits 16 c.toNat

theorem escapeCode_eq (c : Char) : escapeCode c = '\\' :: 'u' :: paddedCode c := by
  rw [escapeCode, List.append_assoc]
  rfl

theorem numeral_paddedCode (c : Char) : numeral 16 (paddedCode c) = c.toNat := by
  rw [paddedCode, numeral_replicate_zero, numeral_toDigits (by omega) (Nat.le_refl 16)]

theorem isDigitIn_of_mem_paddedCode {c d : Char} (h : d ∈ paddedCode c) :
    isDigitIn 16 d = true := by
  rcases List.mem_append.mp h with h | h
  · rw [List.eq_of_mem_replicate h]
    decide
  · exact isDigitIn_of_mem_toDigits (by omega) (Nat.le_refl 16) h

theorem length_paddedCode {c : Char} (h : c.toNat < 65536) : (paddedCode c).length = 4 := by
  have hshort : (Nat.toDigits 16 c.toNat).length ≤ 4 :=
    (Nat.length_toDigits_le_iff (by omega) (by omega)).mpr h
  rw [paddedCode, List.length_append, List.length_replicate]
  omega

theorem stringBody_escapeCode {c : Char} (h : c.toNat < 65536) (rest : List Char) :
    stringBody (escapeCode c ++ rest) =
      (stringBody rest).map fun (text, rest) => (c :: text, rest) := by
  have hlength := length_paddedCode h
  have hdigits : ∀ d ∈ paddedCode c, isDigitIn 16 d = true := fun _ =>
    isDigitIn_of_mem_paddedCode
  have hnumeral := numeral_paddedCode c
  rw [escapeCode_eq]
  match hcode : paddedCode c, hlength with
  | [c₁, c₂, c₃, c₄], _ =>
    rw [hcode] at hdigits hnumeral
    have hunit : codeUnit? c₁ c₂ c₃ c₄ = some c.toNat := by
      rw [codeUnit?, if_pos (List.all_eq_true.mpr hdigits), hnumeral]
    simp only [List.cons_append, List.nil_append, stringBody, hunit, charOfCode?_toNat,
      Option.bind_eq_bind, Option.bind_some]
    cases stringBody rest <;> rfl

/-- A letter after a backslash stands for a character. -/
theorem stringBody_escaped {letter c : Char} (hletter : letter ≠ 'u')
    (h : escaped? letter = some c) (rest : List Char) :
    stringBody ('\\' :: letter :: rest) =
      (stringBody rest).map fun (text, rest) => (c :: text, rest) := by
  rw [stringBody.eq_4 letter rest fun _ _ _ _ _ hu => absurd hu hletter, h]
  cases stringBody rest <;> rfl

/-- A character that is written as it is stands for itself. -/
theorem stringBody_plain {c : Char} (hquote : c ≠ '"') (hslash : c ≠ '\\')
    (hcontrol : ¬c.toNat < 0x20) (rest : List Char) :
    stringBody (c :: rest) = (stringBody rest).map fun (text, rest) => (c :: text, rest) := by
  have hplain : ¬(decide (c.toNat < 0x20) || decide (c = '\\')) = true := by
    simp [hcontrol, hslash]
  rw [stringBody.eq_5 c rest hquote (fun _ _ _ _ _ h => absurd h hslash)
    fun _ _ h => absurd h hslash, if_neg hplain]
  cases stringBody rest <;> rfl

theorem stringBody_escapeChar (c : Char) (rest : List Char) :
    stringBody (escapeChar c ++ rest) =
      (stringBody rest).map fun (text, rest) => (c :: text, rest) := by
  unfold escapeChar
  split
  case h_8 hquote hslash _ _ _ _ _ =>
    by_cases hcontrol : c.toNat < 0x20
    · rw [if_pos hcontrol]
      exact stringBody_escapeCode (by omega) rest
    · rw [if_neg hcontrol]
      exact stringBody_plain hquote hslash hcontrol rest
  all_goals exact stringBody_escaped (by decide) rfl rest

theorem stringBody_flatMap_escapeChar (text rest : List Char) :
    stringBody (text.flatMap escapeChar ++ '"' :: rest) = some (text, rest) := by
  induction text with
  | nil => rfl
  | cons c text ih =>
    rw [List.flatMap_cons, List.append_assoc, stringBody_escapeChar, ih]
    rfl

theorem string?_printString (text : String) (rest : List Char) :
    string? (printString text ++ rest) = some (text, rest) := by
  rw [printString, List.cons_append, List.append_assoc, List.cons_append, List.nil_append, string?,
    stringBody_flatMap_escapeChar]
  exact congrArg (fun text => some (text, rest)) String.ofList_toList

theorem newline_notMem_escapeChar (c : Char) : '\n' ∉ escapeChar c := by
  unfold escapeChar
  split
  case h_8 hquote hslash _ _ hnewline _ _ =>
    by_cases hcontrol : c.toNat < 0x20
    · rw [if_pos hcontrol, escapeCode_eq]
      have hcode : '\n' ∉ paddedCode c := fun h => by cases isDigitIn_of_mem_paddedCode h
      simp [hcode]
    · rw [if_neg hcontrol, List.mem_singleton]
      exact fun h => hnewline h.symm
  all_goals decide

theorem newline_notMem_printString (text : String) : '\n' ∉ printString text := by
  have htext : '\n' ∉ text.toList.flatMap escapeChar := fun h =>
    (List.mem_flatMap.mp h).elim fun c hc => newline_notMem_escapeChar c hc.2
  simp [printString, htext]

/-! ## Numbers -/

/-- The rest does not go on with a number. -/
def EndsNumber (rest : List Char) : Prop :=
  ∀ c ∈ rest.head?, isDigit c = false ∧ c ≠ '.' ∧ c ≠ 'e' ∧ c ≠ 'E'

theorem endsNumber_nil : EndsNumber [] := fun _ h => by cases h

theorem endsNumber_cons {c : Char} (hdigit : isDigit c = false)
    (hpoint : c ≠ '.') (he : c ≠ 'e') (hE : c ≠ 'E') (rest : List Char) :
    EndsNumber (c :: rest) := by
  intro d hd
  obtain rfl : c = d := Option.some.inj hd
  exact ⟨hdigit, hpoint, he, hE⟩

theorem integerDigits_toDigits (n : Nat) {rest : List Char}
    (hrest : ∀ c ∈ rest.head?, isDigit c = false) :
    integerDigits (Nat.toDigits 10 n ++ rest) = some (Nat.toDigits 10 n, rest) := by
  obtain ⟨c, more, hn, hc, hmore⟩ := exists_toDigits_eq_cons n
  rw [hn, List.cons_append]
  by_cases hzero : c = '0'
  · -- A zero in front is the only digit, so that the reader may stop after it.
    subst hzero
    rw [eq_zero_of_toDigits_eq_cons hn, Nat.toDigits_zero, List.cons.injEq] at hn
    rw [← hn.2]
    rfl
  · rw [integerDigits.eq_2 c (more ++ rest) hzero, if_pos hc, Reader.span_append hmore hrest]

theorem fractionDigits_of_ne {rest : List Char} (h : ∀ c ∈ rest.head?, c ≠ '.') :
    fractionDigits rest = some (none, rest) := by
  cases rest with
  | nil => rfl
  | cons c rest =>
    have hc : c ≠ '.' := h c rfl
    exact fractionDigits.eq_3 (c :: rest) (fun _ _ he => hc (List.cons.inj he).1)
      fun he => hc (List.cons.inj he).1

theorem exponentDigits_toDigits (negative : Bool) (n : Nat) {rest : List Char}
    (hrest : ∀ c ∈ rest.head?, isDigit c = false) :
    exponentDigits negative (Nat.toDigits 10 n ++ rest) =
      some (some (if negative then -(n : Int) else n), rest) := by
  have hnumeral := numeral_ten_toDigits n
  obtain ⟨c, more, hn, hc, hmore⟩ := exists_toDigits_eq_cons n
  rw [hn] at hnumeral
  rw [hn, List.cons_append, exponentDigits, if_pos hc, Reader.span_append hmore hrest]
  simp only [hnumeral]

theorem exponentPart_of_ne {rest : List Char} (h : ∀ c ∈ rest.head?, c ≠ 'e' ∧ c ≠ 'E') :
    exponentPart rest = some (none, rest) := by
  cases rest with
  | nil => rfl
  | cons c rest =>
    obtain ⟨he, hE⟩ := h c rfl
    rw [exponentPart.eq_def]
    exact if_neg (by simp [he, hE])

theorem printInt_of_nonneg {value : Int} (h : 0 ≤ value) :
    printInt value = Nat.toDigits 10 value.toNat := by
  rw [printInt, Int.toString_eq_repr, Int.repr_eq_if, if_pos h, Nat.toList_repr]

theorem printInt_of_neg {value : Int} (h : value < 0) :
    printInt value = '-' :: Nat.toDigits 10 (-value).toNat := by
  rw [printInt, Int.toString_eq_repr, Int.repr_eq_if, if_neg (by omega), String.toList_append,
    Nat.toList_repr]
  rfl

theorem exponentPart_printInt (exponent : Int) {rest : List Char}
    (hrest : ∀ c ∈ rest.head?, isDigit c = false) :
    exponentPart ('e' :: (printInt exponent ++ rest)) = some (some exponent, rest) := by
  have hsign : (decide ('e' = 'e') || decide ('e' = 'E')) = true := by decide
  rcases Int.lt_or_le exponent 0 with hneg | hnonneg
  · have hread := exponentDigits_toDigits true (-exponent).toNat hrest
    have hvalue : -((-exponent).toNat : Int) = exponent := by omega
    rw [if_pos rfl, hvalue] at hread
    rw [printInt_of_neg hneg, List.cons_append, exponentPart, if_pos hsign, hread]
  · have hread := exponentDigits_toDigits false exponent.toNat hrest
    rw [if_neg Bool.false_ne_true, Int.toNat_of_nonneg hnonneg] at hread
    obtain ⟨c, more, hn, hc, -⟩ := exists_toDigits_eq_cons exponent.toNat
    have hsignless : ∀ sign, isDigit sign = false → ∀ text, c :: more ++ rest ≠ sign :: text := by
      intro sign hdigit text h
      rw [← (List.cons.inj h).1, hc] at hdigit
      cases hdigit
    rw [hn] at hread
    rw [printInt_of_nonneg hnonneg, hn, exponentPart.eq_3 'e' (c :: more ++ rest)
      (hsignless '-' (by decide)) (hsignless '+' (by decide)), if_pos hsign, hread]

theorem unsigned_toDigits {negative : Bool} {n : Nat} (hzero : negative = true → n ≠ 0)
    {rest : List Char} (hrest : EndsNumber rest) :
    unsigned negative (Nat.toDigits 10 n ++ rest) =
      some (.integer (if negative then -(n : Int) else n), rest) := by
  have hinteger : (!(negative && n == 0)) = true := by
    cases negative with
    | false => rfl
    | true => simp [hzero rfl]
  rw [unsigned, integerDigits_toDigits n fun c hc => (hrest c hc).1]
  simp only [Option.bind_eq_bind, Option.bind_some]
  rw [fractionDigits_of_ne fun c hc => (hrest c hc).2.1]
  simp only [Option.bind_some]
  rw [exponentPart_of_ne fun c hc => (hrest c hc).2.2]
  simp [numeral_ten_toDigits, hinteger]

theorem unsigned_toDigits_exponent (negative : Bool) (digits : Nat) (exponent : Int)
    {rest : List Char} (hrest : EndsNumber rest) :
    unsigned negative (Nat.toDigits 10 digits ++ 'e' :: (printInt exponent ++ rest)) =
      some (.decimal negative digits exponent, rest) := by
  rw [unsigned, integerDigits_toDigits digits fun c hc => by cases hc; decide]
  simp only [Option.bind_eq_bind, Option.bind_some]
  rw [fractionDigits_of_ne fun c hc => by cases hc; decide]
  simp only [Option.bind_some]
  rw [exponentPart_printInt exponent fun c hc => (hrest c hc).1]
  simp [numeral_ten_toDigits]

theorem number?_toDigits (n : Nat) (rest : List Char) :
    number? (Nat.toDigits 10 n ++ rest) = unsigned false (Nat.toDigits 10 n ++ rest) := by
  obtain ⟨c, more, hn, hc, -⟩ := exists_toDigits_eq_cons n
  rw [hn]
  refine number?.eq_2 _ fun text h => ?_
  obtain rfl := (List.cons.inj h).1
  cases hc

theorem number?_printNumber (value : Number) {rest : List Char} (hrest : EndsNumber rest) :
    number? (printNumber value ++ rest) = some (value, rest) := by
  cases value with
  | integer value =>
    rw [printNumber]
    rcases Int.lt_or_le value 0 with hneg | hnonneg
    · rw [printInt_of_neg hneg, List.cons_append, number?,
        unsigned_toDigits (fun _ => by omega) hrest, if_pos rfl]
      have hvalue : -((-value).toNat : Int) = value := by omega
      rw [hvalue]
    · rw [printInt_of_nonneg hnonneg, number?_toDigits,
        unsigned_toDigits (fun h => by cases h) hrest, if_neg Bool.false_ne_true,
        Int.toNat_of_nonneg hnonneg]
  | decimal negative digits exponent =>
    have hread := unsigned_toDigits_exponent negative digits exponent hrest
    have hdigits : (toString digits).toList = Nat.toDigits 10 digits := Nat.toList_repr
    simp only [printNumber, hdigits, List.append_assoc, List.cons_append, List.nil_append]
    cases negative with
    | true => exact hread
    | false => exact (number?_toDigits digits _).trans hread

/-- The characters that a number can begin with. -/
def beginsNumber (c : Char) : Bool := c == '-' || isDigit c

theorem exists_printNumber_eq_cons (value : Number) :
    ∃ c text, printNumber value = c :: text ∧ beginsNumber c = true := by
  have hdigits : ∀ n text, ∃ c more, Nat.toDigits 10 n ++ text = c :: more ∧
      beginsNumber c = true := by
    intro n text
    obtain ⟨c, more, hn, hc, -⟩ := exists_toDigits_eq_cons n
    exact ⟨c, more ++ text, by rw [hn, List.cons_append], by simp [beginsNumber, hc]⟩
  cases value with
  | integer value =>
    rw [printNumber]
    rcases Int.lt_or_le value 0 with hneg | hnonneg
    · exact ⟨'-', _, printInt_of_neg hneg, rfl⟩
    · rw [printInt_of_nonneg hnonneg, ← List.append_nil (Nat.toDigits 10 _)]
      exact hdigits _ []
  | decimal negative digits exponent =>
    have hrepr : (toString digits).toList = Nat.toDigits 10 digits := Nat.toList_repr
    rw [printNumber, hrepr, List.append_assoc, List.append_assoc]
    cases negative with
    | true => exact ⟨'-', _, rfl, rfl⟩
    | false => exact hdigits digits _

theorem ne_of_beginsNumber {c d : Char} (hc : beginsNumber c = true)
    (hd : beginsNumber d = false) : c ≠ d := by
  rintro rfl
  rw [hc] at hd
  cases hd

theorem newline_notMem_printInt (value : Int) : '\n' ∉ printInt value := by
  rcases Int.lt_or_le value 0 with hneg | hnonneg
  · simp [printInt_of_neg hneg, newline_notMem_toDigits]
  · rw [printInt_of_nonneg hnonneg]
    exact newline_notMem_toDigits _

theorem newline_notMem_printNumber (value : Number) : '\n' ∉ printNumber value := by
  cases value with
  | integer value => exact newline_notMem_printInt value
  | decimal negative digits exponent =>
    cases negative <;> simp [printNumber, newline_notMem_toDigits, newline_notMem_printInt]

end Json
end ScriptReview
