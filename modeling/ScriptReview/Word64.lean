/-!
Integers that fit into a word of 64 bits.
-/

namespace ScriptReview
namespace Word64

/-- Does the number fit into a word without sign? -/
def fits (value : Nat) : Bool := value < 18446744073709551616

/-- Does the integer fit into a word with sign? -/
def fitsSigned (value : Int) : Bool :=
  -9223372036854775808 ≤ value && value < 9223372036854775808

end Word64
end ScriptReview
