/-!
Finding one text inside another.

`occurs` says whether a pattern appears, `occurrences` how often it can be read off one after the
other from the left. The empty pattern appears before every character and at the end.
-/

namespace ScriptReview
namespace Text

/-- Does the pattern appear somewhere in the text? -/
def occurs (pattern : List Char) : List Char → Bool
  | [] => pattern.isEmpty
  | c :: text => pattern.isPrefixOf (c :: text) || occurs pattern text

/-- Appearances of the pattern in the text once the next `skip` characters are passed over. A match
passes over its own characters, so matches do not overlap. -/
def occurrencesAfter (pattern : List Char) : Nat → List Char → Nat
  | _, [] => if pattern.isEmpty then 1 else 0
  | skip + 1, _ :: text => occurrencesAfter pattern skip text
  | 0, c :: text =>
    if pattern.isPrefixOf (c :: text) then
      occurrencesAfter pattern (pattern.length - 1) text + 1
    else
      occurrencesAfter pattern 0 text

/-- How often the pattern appears, counted from the left without overlap. -/
def occurrences (pattern text : List Char) : Nat :=
  occurrencesAfter pattern 0 text

end Text
end ScriptReview
