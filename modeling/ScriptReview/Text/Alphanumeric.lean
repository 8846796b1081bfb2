import ScriptReview.Text.AlphanumericRanges

/-!
Letters and digits of all scripts.
-/

namespace ScriptReview
namespace Text

/-- Is the code point in one of the ranges? -/
def inRanges (ranges : List (Nat × Nat)) (n : Nat) : Bool :=
  ranges.any fun (first, last) => first ≤ n && n ≤ last

/-- A letter or a digit. ASCII is decided without the table, which begins above it. -/
def isAlphanumeric (c : Char) : Bool :=
  c.isAlphanum || (127 < c.toNat && inRanges alphanumericRanges c.toNat)

end Text
end ScriptReview
