import ScriptReview.Text.Alphanumeric
import ScriptReview.Text.HiddenRanges

/-!
Quoting a text for a message.

A quoted text shows every character: quotes, backslashes and the common control characters get a
backslash, and a character that would not show is written as its code point in braces.
-/

namespace ScriptReview
namespace Text

/-- Would the character not show by itself? The space does. -/
def isHidden (c : Char) : Bool :=
  c.toNat < 0x20 || c.toNat == 0x7F || (0x7F < c.toNat && inRanges hiddenRanges c.toNat)

/-- A character as it stands between quotes. -/
def quoteChar (c : Char) : List Char :=
  match c with
  | '\x00' => ['\\', '0']
  | '\t' => ['\\', 't']
  | '\n' => ['\\', 'n']
  | '\r' => ['\\', 'r']
  | '"' => ['\\', '"']
  | '\\' => ['\\', '\\']
  | c =>
    if isHidden c then '\\' :: 'u' :: '\x7b' :: (Nat.toDigits 16 c.toNat ++ ['\x7d']) else [c]

/-- The text between double quotes. -/
def quote (text : String) : String :=
  String.ofList ('"' :: (text.toList.flatMap quoteChar ++ ['"']))

end Text
end ScriptReview
