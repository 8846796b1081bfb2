import ScriptReview.Proofs.Text.Digits
import ScriptReview.Toml.Document

/-!
Reading keys and plain values back.

A key is read back as it is written, with or without quotes (`key_of_writesKey`), and so is a value
that is a text in quotes, a truth value or a number (`value_of_writesValue`). What follows does not
matter, as long as a key is followed by an equals sign or a bracket and a value by the end of its
line.
-/

namespace ScriptReview
namespace Toml

open Text

/-- A way to write a key of one part. -/
inductive WritesKey : List Char → String → Prop
  | bare {name : String} : name.toList ≠ [] → (∀ c ∈ name.toList, isKeyChar c = true) →
      WritesKey name.toList name
  | quoted {name : String} : (∀ c ∈ name.toList, isPlain c = true) →
      WritesKey ('"' :: (name.toList ++ ['"'])) name

/-- A way to write a plain value. -/
inductive WritesValue : List Char → Toml → Prop
  | string {text : String} : (∀ c ∈ text.toList, isPlain c = true) →
      WritesValue ('"' :: (text.toList ++ ['"'])) (.string text)
  | yes : WritesValue "true".toList (.boolean true)
  | no : WritesValue "false".toList (.boolean false)
  | integer {n : Nat} : n ≤ 9223372036854775807 → WritesValue (Nat.toDigits 10 n) (.integer n)

theorem ne_of_isPlain {c : Char} (h : isPlain c = true) : c ≠ '"' ∧ c ≠ '\\' := by
  constructor
  · rintro rfl
    cases h
  · rintro rfl
    cases h

theorem basicBody_append {text : List Char} (h : ∀ c ∈ text, isPlain c = true)
    (rest : List Char) : basicBody 0 (text ++ '"' :: rest) = some (text, rest) := by
  induction text with
  | nil => rfl
  | cons c text ih =>
    obtain ⟨hc, htext⟩ := List.forall_mem_cons.mp h
    obtain ⟨hquote, hbackslash⟩ := ne_of_isPlain hc
    rw [List.cons_append, basicBody.eq_5 _ _ hquote hbackslash, if_pos hc, ih htext]
    rfl

/-! ## Keys -/

theorem skipSpace_cons {c : Char} (h : isSpace c = false) (rest : List Char) :
    skipSpace (c :: rest) = c :: rest :=
  List.dropWhile_cons_of_neg (by simp [h])

/-- A character of a class without space is no space. -/
theorem isSpace_of_inClass (inClass : Char → Bool) (hspace : inClass ' ' = false)
    (htab : inClass '\t' = false) {c : Char} (h : inClass c = true) : isSpace c = false := by
  rw [isSpace, Bool.or_eq_false_iff, beq_eq_false_iff_ne, beq_eq_false_iff_ne]
  constructor
  · rintro rfl
    rw [h] at hspace
    cases hspace
  · rintro rfl
    rw [h] at htab
    cases htab

theorem keyPart_of_writesKey {text : List Char} {name : String} (h : WritesKey text name)
    {rest : List Char} (hrest : ∀ c ∈ rest.head?, isKeyChar c = false) :
    keyPart (text ++ rest) = some (name, skipSpace rest) := by
  cases h with
  | bare hne hname =>
    have hspan : bareKey (name.toList ++ rest) = some (name.toList, rest) := by
      rw [bareKey, Reader.span_append hname hrest]
      split
      · exact absurd (Prod.mk.inj ‹_›).1 hne
      · rfl
    obtain ⟨c, more, hcons⟩ := List.exists_cons_of_ne_nil hne
    have hc := hname c (hcons ▸ List.mem_cons_self)
    have hquote : c ≠ '"' := by
      rintro rfl
      cases hc
    have hapostrophe : c ≠ '\'' := by
      rintro rfl
      cases hc
    rw [hcons, List.cons_append] at hspan ⊢
    rw [keyPart, skipSpace_cons (isSpace_of_inClass isKeyChar rfl rfl hc)]
    split
    · exact absurd (List.cons.inj ‹_›).1 hquote
    · exact absurd (List.cons.inj ‹_›).1 hapostrophe
    · rw [hspan, Option.bind_eq_bind, Option.bind_some, ← hcons]
      dsimp only
      rw [String.ofList_toList]
  | quoted hname =>
    have hbody := basicBody_append hname rest
    rw [List.cons_append, List.append_assoc, List.singleton_append, keyPart,
      skipSpace_cons (by decide)]
    simp only [shortString, hbody, Option.bind_eq_bind, Option.bind_some, String.ofList_toList]

theorem key_of_keyPart {text rest : List Char} {name : String}
    (h : keyPart text = some (name, rest)) (hrest : ∀ c ∈ rest.head?, c ≠ '.') :
    key text = some (⟨[], name⟩, rest) := by
  have hdot : Reader.char '.' rest = none := by
    cases rest with
    | nil => rfl
    | cons c rest => exact if_neg (hrest c rfl)
  rw [key, nestingLimit, Reader.separated, h]
  dsimp only [bind, Option.bind]
  rw [hdot]
  rfl

theorem key_of_writesKey_equals {text : List Char} {name : String} (h : WritesKey text name)
    (rest : List Char) : key (text ++ ' ' :: '=' :: rest) = some (⟨[], name⟩, '=' :: rest) := by
  refine key_of_keyPart (keyPart_of_writesKey h fun c hc => ?_) fun c hc => ?_
  · cases hc
    decide
  · cases hc
    decide

theorem key_of_writesKey_bracket {text : List Char} {name : String} (h : WritesKey text name)
    (rest : List Char) : key (text ++ ']' :: rest) = some (⟨[], name⟩, ']' :: rest) := by
  refine key_of_keyPart (keyPart_of_writesKey h fun c hc => ?_) fun c hc => ?_
  · cases hc
    decide
  · cases hc
    decide

/-! ## Numbers -/

theorem digitsFrom_append {found rest : List Char} (hfound : ∀ c ∈ found, isDigitIn 10 c = true)
    (hrest : ∀ c ∈ rest.head?, isDigitIn 10 c = false ∧ c ≠ '_') :
    digitsFrom 10 true (found ++ rest) = some (found, rest) := by
  induction found with
  | nil =>
    cases rest with
    | nil => rfl
    | cons c rest =>
      obtain ⟨hdigit, hunderscore⟩ := hrest c rfl
      rw [List.nil_append, digitsFrom.eq_3 _ _ _ hunderscore, if_neg (by simp [hdigit])]
  | cons c found ih =>
    obtain ⟨hc, hlater⟩ := List.forall_mem_cons.mp hfound
    have hunderscore : c ≠ '_' := by
      rintro rfl
      cases hc
    rw [List.cons_append, digitsFrom.eq_3 _ _ _ hunderscore, if_pos hc, ih hlater]
    rfl

theorem digits_append {found rest : List Char} (hne : found ≠ [])
    (hfound : ∀ c ∈ found, isDigitIn 10 c = true)
    (hrest : ∀ c ∈ rest.head?, isDigitIn 10 c = false ∧ c ≠ '_') :
    digits 10 (found ++ rest) = some (found, rest) := by
  obtain ⟨c, found, rfl⟩ := List.exists_cons_of_ne_nil hne
  obtain ⟨hc, hlater⟩ := List.forall_mem_cons.mp hfound
  rw [digits, List.cons_append, digitsFrom.eq_1, if_pos hc, digitsFrom_append hlater hrest]
  rfl

theorem wholeDigits_toDigits (n : Nat) (rest : List Char) :
    wholeDigits (Nat.toDigits 10 n ++ '\n' :: rest) = some (Nat.toDigits 10 n, '\n' :: rest) := by
  obtain ⟨c, more, hn, -, -⟩ := exists_toDigits_eq_cons n
  by_cases hzero : c = '0'
  · -- A zero in front is the only digit, so that the reader may stop after it.
    subst hzero
    rw [eq_zero_of_toDigits_eq_cons hn]
    rfl
  · have hnotZero : ∀ text, Nat.toDigits 10 n ++ '\n' :: rest ≠ '0' :: text := fun text h => by
      rw [hn, List.cons_append] at h
      exact hzero (List.cons.inj h).1
    rw [wholeDigits.eq_2 _ hnotZero]
    refine digits_append Nat.toDigits_ne_nil (fun d hd => ?_) fun d hd => ?_
    · exact isDigitIn_of_mem_toDigits (by omega) (by omega) hd
    · cases hd
      decide

theorem integerValue?_of_le {n : Nat} (h : n ≤ 9223372036854775807) :
    integerValue? false n = some (.integer n) := by
  have hfits : Word64.fitsSigned (n : Int) = true := by
    rw [Word64.fitsSigned, Bool.and_eq_true, decide_eq_true_iff, decide_eq_true_iff]
    omega
  simp only [integerValue?, Bool.false_eq_true, if_false, hfits, if_true]

theorem decimal_toDigits {n : Nat} (h : n ≤ 9223372036854775807) (rest : List Char) :
    decimal false (Nat.toDigits 10 n ++ '\n' :: rest) = some (.integer n, '\n' :: rest) := by
  have hfraction : fraction ('\n' :: rest) = some (none, '\n' :: rest) := rfl
  have hpower : power ('\n' :: rest) = some (none, '\n' :: rest) := rfl
  rw [decimal, wholeDigits_toDigits, Option.bind_eq_bind, Option.bind_some]
  dsimp only
  rw [hfraction, Option.bind_eq_bind, Option.bind_some]
  dsimp only
  rw [hpower, Option.bind_eq_bind, Option.bind_some]
  dsimp only
  rw [numeral_ten_toDigits, integerValue?_of_le h]
  rfl

/-- Where a date or a time of day begins, the first character that is no digit tells. -/
theorem head?_dropWhile_of_startsDateTime {text : List Char} (h : startsDateTime text = true) :
    (text.dropWhile isDigit).head? = some ':' ∨ (text.dropWhile isDigit).head? = some '-' := by
  have hcolon : isDigit ':' = false := rfl
  have hminus : isDigit '-' = false := rfl
  rw [startsDateTime.eq_def] at h
  split at h
  · obtain ⟨ha, hb⟩ := Bool.and_eq_true_iff.mp h
    simp [ha, hb, hcolon]
  · have hdigits := List.all_eq_true.mp h
    simp only [List.forall_mem_cons] at hdigits
    obtain ⟨ha, hb, hc, hd, -⟩ := hdigits
    simp [ha, hb, hc, hd, hminus]
  · cases h

theorem startsDateTime_toDigits (n : Nat) (rest : List Char) :
    startsDateTime (Nat.toDigits 10 n ++ '\n' :: rest) = false := by
  have hdrop : (Nat.toDigits 10 n ++ '\n' :: rest).dropWhile isDigit = '\n' :: rest := by
    rw [List.dropWhile_append_of_pos fun c hc => isDigit_of_mem_toDigits hc]
    rfl
  rw [← Bool.not_eq_true]
  intro h
  have hhead := head?_dropWhile_of_startsDateTime h
  rw [hdrop] at hhead
  rcases hhead with hhead | hhead
  · cases hhead
  · cases hhead

theorem toDigits_append_ne_cons {d : Char} (h : isDigit d = false) (n : Nat)
    (rest text : List Char) : Nat.toDigits 10 n ++ rest ≠ d :: text := by
  obtain ⟨c, more, hn, hc, -⟩ := exists_toDigits_eq_cons n
  rw [hn, List.cons_append]
  intro heq
  rw [← (List.cons.inj heq).1, hc] at h
  cases h

/-- After a zero in front comes the end of the line, and no letter that marks a base. -/
theorem toDigits_append_ne_zero_cons {d : Char} (h : d ≠ '\n') (n : Nat) (rest text : List Char) :
    Nat.toDigits 10 n ++ '\n' :: rest ≠ '0' :: d :: text := by
  obtain ⟨c, more, hn, -, -⟩ := exists_toDigits_eq_cons n
  intro heq
  have hzero : c = '0' := by
    rw [hn, List.cons_append] at heq
    exact (List.cons.inj heq).1
  subst hzero
  rw [eq_zero_of_toDigits_eq_cons hn] at heq
  exact h (List.cons.inj (List.cons.inj heq).2).1.symm

theorem numberOrDate_toDigits {n : Nat} (h : n ≤ 9223372036854775807) (rest : List Char) :
    numberOrDate (Nat.toDigits 10 n ++ '\n' :: rest) = some (.integer n, '\n' :: rest) := by
  have hbase : ∀ d, d ≠ '\n' → ∀ text, Nat.toDigits 10 n ++ '\n' :: rest ≠ '0' :: d :: text :=
    fun d hd => toDigits_append_ne_zero_cons hd n rest
  have hfirst : ∀ d, isDigit d = false → ∀ text, Nat.toDigits 10 n ++ '\n' :: rest ≠ d :: text :=
    fun d hd => toDigits_append_ne_cons hd n _
  rw [numberOrDate, startsDateTime_toDigits, if_neg Bool.false_ne_true,
    number.eq_4 _ (hbase 'x' (by decide)) (hbase 'o' (by decide)) (hbase 'b' (by decide)),
    sign.eq_3 _ (hfirst '-' rfl) (hfirst '+' rfl)]
  dsimp only
  rw [signedNumber.eq_3 _ _ (hfirst 'i' rfl) (hfirst 'n' rfl), decimal_toDigits h]

/-! ## Values -/

theorem anyString_quoted {text : List Char} (h : ∀ c ∈ text, isPlain c = true)
    (rest : List Char) :
    anyString ('"' :: (text ++ '"' :: '\n' :: rest)) = some (text, '\n' :: rest) := by
  -- Three quotes would begin a text of several lines, but two in a row are an empty text here.
  have hquotes : ∀ more, text ++ '"' :: '\n' :: rest ≠ '"' :: '"' :: more := by
    intro more heq
    cases text with
    | nil => cases heq
    | cons c text =>
      obtain ⟨hquote, -⟩ := ne_of_isPlain (h c List.mem_cons_self)
      exact hquote (List.cons.inj heq).1
  rw [anyString.eq_3 _ (fun more heq => hquotes more (List.cons.inj heq).2)
    (fun more heq => by cases heq)]
  exact basicBody_append h ('\n' :: rest)

theorem scalar_of_writesValue {text : List Char} {found : Toml} (h : WritesValue text found)
    (rest : List Char) : scalar (text ++ '\n' :: rest) = some (found, '\n' :: rest) := by
  cases h with
  | string htext =>
    rw [List.cons_append, List.append_assoc, List.singleton_append, scalar.eq_1,
      anyString_quoted htext, Option.map_some]
    dsimp only
    rw [String.ofList_toList]
  | yes => rfl
  | no => rfl
  | @integer n hn =>
    rw [scalar.eq_5 _ (toDigits_append_ne_cons rfl n _) (toDigits_append_ne_cons rfl n _)
      (toDigits_append_ne_cons rfl n _) (toDigits_append_ne_cons rfl n _),
      numberOrDate_toDigits hn]

theorem skipSpace_of_writesValue {text : List Char} {found : Toml} (h : WritesValue text found)
    (rest : List Char) : skipSpace (text ++ rest) = text ++ rest := by
  cases h with
  | string htext => rfl
  | yes => rfl
  | no => rfl
  | @integer n hn =>
    obtain ⟨c, more, hdigits, hc, -⟩ := exists_toDigits_eq_cons n
    rw [hdigits, List.cons_append]
    exact skipSpace_cons (isSpace_of_inClass isDigit rfl rfl hc) (more ++ rest)

theorem value_of_writesValue {text : List Char} {found : Toml} (h : WritesValue text found)
    (depth : Nat) (rest : List Char) :
    value depth (text ++ '\n' :: rest) = some (found, '\n' :: rest) := by
  cases depth with
  | zero => exact scalar_of_writesValue h rest
  | succ depth =>
    rw [← scalar_of_writesValue h rest]
    cases h with
    | string htext => rfl
    | yes => rfl
    | no => rfl
    | @integer n hn =>
      exact value.eq_4 _ _ (toDigits_append_ne_cons rfl n _) (toDigits_append_ne_cons rfl n _)

end Toml
end ScriptReview
