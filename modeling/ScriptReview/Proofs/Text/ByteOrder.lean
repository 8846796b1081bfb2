/-!
The order of texts by their bytes.

In UTF-8 the order of bytes is the order of code points (`bytes_lt_bytes_iff`). A longer code has a
larger first byte. Codes of one length are numbers written in base 64 with marks added to their
digits, and so a larger number has the larger byte at the first place where two codes differ
(`Rising.continued`).
-/

namespace ScriptReview
namespace Text

/-- The bytes of the text in UTF-8. -/
def bytes (text : String) : List UInt8 :=
  text.toUTF8.data.toList

theorem bytes_eq_flatMap (text : String) :
    bytes text = text.toList.flatMap String.utf8EncodeChar := by
  have htext : text.toUTF8 = text.toList.utf8Encode := by
    rw [← String.toByteArray_ofList, String.ofList_toList, String.toUTF8_eq_toByteArray]
  rw [bytes, htext, List.utf8Encode]
  exact List.toList_data_toByteArray

/-! ## Codes of one length -/

/-- Below the bound, a larger number is written with larger bytes, whatever follows them. -/
def Rising (write : Nat → List UInt8) (bound : Nat) : Prop :=
  ∀ m n, m < n → n < bound → ∀ a b, write m ++ a < write n ++ b

theorem ofNat_lt_ofNat {m n : Nat} (h : m < n) (hn : n < 256) : UInt8.ofNat m < UInt8.ofNat n := by
  rw [UInt8.lt_iff_toNat_lt, UInt8.toNat_ofNat', UInt8.toNat_ofNat', Nat.mod_eq_of_lt hn,
    Nat.mod_eq_of_lt (Nat.lt_trans h hn)]
  exact h

theorem rising_single : Rising (fun n => [UInt8.ofNat n]) 128 := fun m n h hn a b =>
  List.cons_lt_cons_iff.mpr (.inl (ofNat_lt_ofNat h (by omega)))

theorem rising_lead (size mark : Nat) (h : size + mark ≤ 256) :
    Rising (fun n => [UInt8.ofNat (n % size + mark)]) size := by
  intro m n hlt hn a b
  refine List.cons_lt_cons_iff.mpr (.inl ?_)
  rw [Nat.mod_eq_of_lt hn, Nat.mod_eq_of_lt (Nat.lt_trans hlt hn)]
  exact ofNat_lt_ofNat (by omega) (by omega)

/-- One more byte for the last digit in base 64. -/
theorem Rising.continued {write : Nat → List UInt8} {bound : Nat} (h : Rising write bound) :
    Rising (fun n => write (n / 64) ++ [UInt8.ofNat (n % 64 + 128)]) (bound * 64) := by
  intro m n hlt hn a b
  have hbound : n / 64 < bound := by omega
  simp only [List.append_assoc]
  by_cases hdigits : m / 64 < n / 64
  · exact h _ _ hdigits hbound _ _
  · -- Only the last digits differ.
    have hsame : m / 64 = n / 64 := by omega
    rw [hsame]
    refine List.append_left_lt (List.cons_lt_cons_iff.mpr (.inl ?_))
    exact ofNat_lt_ofNat (by omega) (by omega)

theorem rising_two : Rising (fun n =>
    [UInt8.ofNat (n / 64 % 32 + 192), UInt8.ofNat (n % 64 + 128)]) 2048 :=
  (rising_lead 32 192 (by omega)).continued

theorem rising_three : Rising (fun n =>
    [UInt8.ofNat (n / 4096 % 16 + 224), UInt8.ofNat (n / 64 % 64 + 128),
      UInt8.ofNat (n % 64 + 128)]) 65536 := by
  have h := (rising_lead 16 224 (by omega)).continued.continued
  simp only [Nat.div_div_eq_div_mul] at h
  exact h

theorem rising_four : Rising (fun n =>
    [UInt8.ofNat (n / 262144 % 8 + 240), UInt8.ofNat (n / 4096 % 64 + 128),
      UInt8.ofNat (n / 64 % 64 + 128), UInt8.ofNat (n % 64 + 128)]) 2097152 := by
  have h := (rising_lead 8 240 (by omega)).continued.continued.continued
  simp only [Nat.div_div_eq_div_mul] at h
  exact h

/-! ## Codes of all lengths -/

theorem toNat_lt_of_char (c : Char) : c.val.toNat < 1114112 := by
  have hvalid := c.valid
  simp only [UInt32.isValidChar, Nat.isValidChar] at hvalid
  omega

theorem utf8EncodeChar_append_lt {c d : Char} (h : c < d) (a b : List UInt8) :
    String.utf8EncodeChar c ++ a < String.utf8EncodeChar d ++ b := by
  have hcode : c.val.toNat < d.val.toNat := h
  have hlast := toNat_lt_of_char d
  have hfirst : ∀ {m n : Nat} {x y : List UInt8}, m < n → n < 256 →
      UInt8.ofNat m :: x < UInt8.ofNat n :: y := fun hlt hn =>
    List.cons_lt_cons_iff.mpr (.inl (ofNat_lt_ofNat hlt hn))
  simp only [String.utf8EncodeChar]
  generalize c.val.toNat = m at hcode ⊢
  generalize d.val.toNat = n at hcode hlast ⊢
  -- By the length of the larger code: a shorter one has a smaller first byte.
  by_cases hone : n ≤ 127
  · rw [if_pos (by omega), if_pos hone]
    exact rising_single m n hcode (by omega) a b
  by_cases htwo : n ≤ 2047
  · rw [if_neg hone, if_pos htwo]
    split
    · exact hfirst (by omega) (by omega)
    · rw [if_pos (by omega)]
      exact rising_two m n hcode (by omega) a b
  by_cases hthree : n ≤ 65535
  · rw [if_neg hone, if_neg htwo, if_pos hthree]
    split
    · exact hfirst (by omega) (by omega)
    split
    · exact hfirst (by omega) (by omega)
    · rw [if_pos (by omega)]
      exact rising_three m n hcode (by omega) a b
  · rw [if_neg hone, if_neg htwo, if_neg hthree]
    split
    · exact hfirst (by omega) (by omega)
    split
    · exact hfirst (by omega) (by omega)
    split
    · exact hfirst (by omega) (by omega)
    · exact rising_four m n hcode (by omega) a b

/-! ## Texts -/

theorem flatMap_utf8EncodeChar_lt {s t : List Char} (h : s < t) :
    s.flatMap String.utf8EncodeChar < t.flatMap String.utf8EncodeChar := by
  induction s generalizing t with
  | nil =>
    cases t with
    | nil => exact absurd h (List.lt_irrefl [])
    | cons d t =>
      obtain ⟨byte, more, hbytes⟩ := List.exists_cons_of_ne_nil
        (List.append_ne_nil_of_left_ne_nil (String.utf8EncodeChar_ne_nil (c := d))
          (t.flatMap String.utf8EncodeChar))
      rw [List.flatMap_cons, hbytes]
      exact List.nil_lt_cons byte more
  | cons c s ih =>
    cases t with
    | nil => exact absurd h (List.not_lt_nil _)
    | cons d t =>
      rw [List.flatMap_cons, List.flatMap_cons]
      rcases List.cons_lt_cons_iff.mp h with hlt | ⟨rfl, hlt⟩
      · exact utf8EncodeChar_append_lt hlt _ _
      · exact List.append_left_lt (ih hlt)

theorem bytes_lt_bytes {a b : String} (h : a < b) : bytes a < bytes b := by
  rw [bytes_eq_flatMap, bytes_eq_flatMap]
  exact flatMap_utf8EncodeChar_lt h

theorem bytes_lt_bytes_iff {a b : String} : bytes a < bytes b ↔ a < b := by
  refine ⟨fun h => ?_, bytes_lt_bytes⟩
  by_cases hlt : a < b
  · exact hlt
  · -- Otherwise the bytes are in the opposite order, or the same.
    by_cases hgt : b < a
    · exact absurd (bytes_lt_bytes hgt) (List.lt_asymm h)
    · have hsame : a = b := String.le_antisymm (String.not_lt.mp hgt) (String.not_lt.mp hlt)
      rw [hsame] at h
      exact absurd h (List.lt_irrefl _)

end Text
end ScriptReview
