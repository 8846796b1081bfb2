import ScriptReview.Text.Reader

/-!
Reading digits back.

`Nat.toDigits` writes a number in a base, and `numeral` gives the number back, also behind leading
zeros (`numeral_toDigits`, `numeral_replicate_zero`). What follows the digits does not matter as
long as it is not a digit itself (`span_append`, `toDigits_append_inj`).
-/

namespace ScriptReview
namespace Text

/-! ## The value of digits -/

theorem numeral_append (base : Nat) (digits : List Char) (c : Char) :
    numeral base (digits ++ [c]) = numeral base digits * base + digitValue c := by
  rw [numeral, numeral, List.foldl_append]
  rfl

theorem digitValue_digitChar {d : Nat} (h : d < 16) : digitValue d.digitChar = d := by
  revert d
  decide

theorem numeral_toDigits {base : Nat} (hbase : 1 < base) (hlast : base ≤ 16) (n : Nat) :
    numeral base (Nat.toDigits base n) = n := by
  induction n using Nat.strongRecOn with
  | ind n ih =>
    rw [Nat.toDigits_eq_if hbase]
    by_cases hn : n < base
    · rw [if_pos hn]
      have hdigit := digitValue_digitChar (Nat.lt_of_lt_of_le hn hlast)
      simp [numeral, hdigit]
    · have hpositive : 0 < n := by omega
      have hmod : n % base < 16 := Nat.lt_of_lt_of_le (Nat.mod_lt n (by omega)) hlast
      rw [if_neg hn, numeral_append, ih (n / base) (Nat.div_lt_self hpositive hbase),
        digitValue_digitChar hmod, Nat.div_add_mod']

theorem numeral_ten_toDigits (n : Nat) : numeral 10 (Nat.toDigits 10 n) = n :=
  numeral_toDigits (by omega) (by omega) n

theorem numeral_replicate_zero (base count : Nat) (digits : List Char) :
    numeral base (List.replicate count '0' ++ digits) = numeral base digits := by
  induction count with
  | zero => rfl
  | succ count ih =>
    have hzero : 0 * base + digitValue '0' = 0 := by
      rw [Nat.zero_mul]
      decide
    rw [List.replicate_succ, List.cons_append, numeral, List.foldl_cons, hzero]
    exact ih

/-! ## The characters of digits -/

theorem isDigitIn_of_mem_toDigits {base : Nat} (hbase : 1 < base) (hlast : base ≤ 16) {n : Nat}
    {c : Char} (h : c ∈ Nat.toDigits base n) : isDigitIn base c = true := by
  induction n using Nat.strongRecOn with
  | ind n ih =>
    rw [Nat.toDigits_eq_if hbase] at h
    by_cases hn : n < base
    · rw [if_pos hn, List.mem_singleton] at h
      rw [h, isDigitIn, digitValue_digitChar (Nat.lt_of_lt_of_le hn hlast)]
      exact decide_eq_true hn
    · have hmod : n % base < base := Nat.mod_lt n (by omega)
      rw [if_neg hn, List.mem_append, List.mem_singleton] at h
      rcases h with h | rfl
      · exact ih (n / base) (Nat.div_lt_self (by omega) hbase) h
      · rw [isDigitIn, digitValue_digitChar (Nat.lt_of_lt_of_le hmod hlast)]
        exact decide_eq_true hmod

theorem isDigit_of_mem_toDigits {n : Nat} {c : Char} (h : c ∈ Nat.toDigits 10 n) :
    isDigit c = true :=
  Nat.isDigit_of_mem_toDigits (by omega) (Nat.le_refl 10) h

theorem newline_notMem_toDigits (n : Nat) : '\n' ∉ Nat.toDigits 10 n := fun h => by
  cases isDigit_of_mem_toDigits h

theorem exists_toDigits_eq_cons (n : Nat) :
    ∃ c more, Nat.toDigits 10 n = c :: more ∧ isDigit c = true ∧ ∀ d ∈ more, isDigit d = true := by
  obtain ⟨c, more, hn⟩ := List.exists_cons_of_ne_nil (Nat.toDigits_ne_nil (n := n) (b := 10))
  have hdigits : ∀ d ∈ c :: more, isDigit d = true := fun d hd => isDigit_of_mem_toDigits (hn ▸ hd)
  exact ⟨c, more, hn, hdigits c List.mem_cons_self, fun d hd =>
    hdigits d (List.mem_cons_of_mem c hd)⟩

/-- Only zero is written with a zero in front. -/
theorem eq_zero_of_toDigits_eq_cons {n : Nat} {rest : List Char}
    (h : Nat.toDigits 10 n = '0' :: rest) : n = 0 := by
  induction n using Nat.strongRecOn generalizing rest with
  | ind n ih =>
    rw [Nat.toDigits_eq_if (by omega)] at h
    by_cases hn : n < 10
    · rw [if_pos hn, List.cons.injEq] at h
      have hdigit := digitValue_digitChar (Nat.lt_of_lt_of_le hn (by omega))
      rw [h.1] at hdigit
      exact hdigit.symm
    · rw [if_neg hn] at h
      obtain ⟨c, front, hfront, -, -⟩ := exists_toDigits_eq_cons (n / 10)
      rw [hfront, List.cons_append, List.cons.injEq] at h
      obtain ⟨rfl, -⟩ := h
      have hzero := ih (n / 10) (by omega) hfront
      omega

namespace Reader

theorem span_append {inClass : Char → Bool} {front rest : List Char}
    (hfront : ∀ c ∈ front, inClass c = true) (hrest : ∀ c ∈ rest.head?, inClass c = false) :
    span inClass (front ++ rest) = (front, rest) := by
  have htake : rest.takeWhile inClass = [] ∧ rest.dropWhile inClass = rest := by
    cases rest with
    | nil => exact ⟨rfl, rfl⟩
    | cons c rest =>
      have hc : inClass c = false := hrest c rfl
      exact ⟨List.takeWhile_cons_of_neg (by simp [hc]), List.dropWhile_cons_of_neg (by simp [hc])⟩
  rw [span, List.takeWhile_append_of_pos hfront, List.dropWhile_append_of_pos hfront, htake.1,
    htake.2, List.append_nil]

end Reader

theorem isDigit_of_mem_head? {c : Char} (h : isDigit c = false) (rest : List Char) :
    ∀ d ∈ (c :: rest).head?, isDigit d = false :=
  fun _ hd => Option.some.inj hd ▸ h

/-- A number ends where its digits end. -/
theorem toDigits_append_inj {m n : Nat} {rest rest' : List Char}
    (hrest : ∀ c ∈ rest.head?, isDigit c = false) (hrest' : ∀ c ∈ rest'.head?, isDigit c = false)
    (h : Nat.toDigits 10 m ++ rest = Nat.toDigits 10 n ++ rest') : m = n ∧ rest = rest' := by
  have hspan := Reader.span_append (fun _ => isDigit_of_mem_toDigits (n := m)) hrest
  rw [h, Reader.span_append (fun _ => isDigit_of_mem_toDigits) hrest', Prod.mk.injEq] at hspan
  refine ⟨?_, hspan.2.symm⟩
  rw [← numeral_ten_toDigits m, ← hspan.1, numeral_ten_toDigits]

/-! ## Code points -/

theorem charOfCode?_toNat (c : Char) : charOfCode? c.toNat = some c := by
  have hvalid : c.toNat.isValidChar := c.valid
  rw [charOfCode?, dif_pos hvalid]
  rfl

end Text
end ScriptReview
