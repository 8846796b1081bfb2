/-!
Blank characters and trimming.

Blank are the characters of the Unicode property `White_Space` and the byte order mark. Trimming
takes the blank characters off both ends of a text and leaves those inside it.
-/

namespace ScriptReview
namespace Text

/-- The Unicode property `White_Space`. -/
def isWhiteSpace (c : Char) : Bool :=
  let n := c.toNat
  (9 ≤ n && n ≤ 13) || n == 0x20 || n == 0x85 || n == 0xA0 || n == 0x1680 ||
    (0x2000 ≤ n && n ≤ 0x200A) || n == 0x2028 || n == 0x2029 || n == 0x202F || n == 0x205F ||
    n == 0x3000

/-- White space, or the byte order mark. -/
def isBlank (c : Char) : Bool :=
  isWhiteSpace c || c == '\uFEFF'

def trimStart (text : List Char) : List Char :=
  text.dropWhile isBlank

def trimEnd (text : List Char) : List Char :=
  (trimStart text.reverse).reverse

/-- The text without the blank characters at its ends. -/
def trim (text : List Char) : List Char :=
  trimEnd (trimStart text)

/-- Is nothing left of the text after trimming? -/
def isAllBlank (text : List Char) : Bool :=
  (trim text).isEmpty

end Text
end ScriptReview
