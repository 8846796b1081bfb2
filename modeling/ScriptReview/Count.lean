/-!
Counts that stick at the largest value of a 32-bit word.

Everything that a report numbers or counts (lines, functions, occurrences) is a `Count`. A number
that does not fit becomes the largest count, and so does a sum that does not fit, which is why
clamping early and clamping late agree (`clamp_add_clamp`).
-/

namespace ScriptReview

/-- The largest count. -/
def Count.maximum : Nat := 4294967295

/-- A number between zero and `Count.maximum`. -/
structure Count where
  toNat : Nat
  toNat_le : toNat ≤ Count.maximum
  deriving DecidableEq

namespace Count

@[ext]
theorem ext {a b : Count} (h : a.toNat = b.toNat) : a = b := by
  cases a; cases b; simp_all

/-- The count nearest to a number. -/
def clamp (n : Nat) : Count := ⟨min n maximum, Nat.min_le_right n maximum⟩

def zero : Count := clamp 0

/-- Addition that stops at the largest count. -/
def add (a b : Count) : Count := clamp (a.toNat + b.toNat)

instance : Add Count := ⟨add⟩

@[simp]
theorem toNat_clamp (n : Nat) : (clamp n).toNat = min n maximum := rfl

@[simp]
theorem toNat_add (a b : Count) : (a + b).toNat = min (a.toNat + b.toNat) maximum := rfl

theorem clamp_add_clamp (m n : Nat) : clamp m + clamp n = clamp (m + n) := by
  apply ext
  simp only [toNat_add, toNat_clamp]
  omega

/-- A sum that is clamped at every step is the sum of the numbers, clamped once. -/
theorem foldl_add_map_clamp (numbers : List Nat) (n : Nat) :
    (numbers.map clamp).foldl (· + ·) (clamp n) = clamp (numbers.foldl (· + ·) n) := by
  induction numbers generalizing n with
  | nil => rfl
  | cons m numbers ih => rw [List.map_cons, List.foldl_cons, clamp_add_clamp, ih, List.foldl_cons]

end Count
end ScriptReview
