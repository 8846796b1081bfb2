/-!
Reading a text from the left.

A reader takes what it understands off the front of a text and hands back the rest, or refuses.
Lists are read with a bound on their length, and the length of the text is always bound enough,
because every item takes at least one character.
-/

namespace ScriptReview
namespace Text

/-- Reads a value off the front of a text. -/
abbrev Reader (α : Type) := List Char → Option (α × List Char)

namespace Reader

/-- The characters at the front of the text that are in the class, perhaps none. -/
def span (inClass : Char → Bool) (text : List Char) : List Char × List Char :=
  (text.takeWhile inClass, text.dropWhile inClass)

/-- One character. -/
def char (expected : Char) : Reader Unit
  | [] => none
  | c :: rest => if c = expected then some ((), rest) else none

/-- The given characters, one after the other. -/
def literal : List Char → Reader Unit
  | [], text => some ((), text)
  | c :: more, text => do
    let (_, rest) ← char c text
    literal more rest

/-- The given number of characters, each in the class. -/
def exactly (inClass : Char → Bool) : Nat → Reader (List Char)
  | 0, text => some ([], text)
  | _ + 1, [] => none
  | count + 1, c :: text =>
    if inClass c then do
      let (more, rest) ← exactly inClass count text
      some (c :: more, rest)
    else none

/-- Items with separators between them, at least one and at most the bound. -/
def separated {α : Type} (item : Reader α) (separator : Reader Unit) : Nat → Reader (List α)
  | 0, _ => none
  | bound + 1, text => do
    let (first, rest) ← item text
    match separator rest with
    | none => some ([first], rest)
    | some (_, rest) =>
      let (more, rest) ← separated item separator bound rest
      some (first :: more, rest)

end Reader

/-! ## Digits -/

def isDigit (c : Char) : Bool := '0' ≤ c && c ≤ '9'

/-- The value of a letter or digit as a digit: ten and more for the letters. -/
def digitValue (c : Char) : Nat :=
  if isDigit c then c.toNat - '0'.toNat
  else if 'a' ≤ c && c ≤ 'z' then c.toNat - 'a'.toNat + 10
  else if 'A' ≤ c && c ≤ 'Z' then c.toNat - 'A'.toNat + 10
  else 36

/-- Is the character a digit in the base? -/
def isDigitIn (base : Nat) (c : Char) : Bool := digitValue c < base

/-- The number that the digits write. -/
def numeral (base : Nat) (digits : List Char) : Nat :=
  digits.foldl (fun value c => value * base + digitValue c) 0

/-- A code point, if it is one of a character. -/
def charOfCode? (code : Nat) : Option Char :=
  if h : code.isValidChar then some (Char.ofNatAux code h) else none

end Text
end ScriptReview
