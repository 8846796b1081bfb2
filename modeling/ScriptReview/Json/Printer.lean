import ScriptReview.Json.Value

/-!
Writing JSON on one line.

No spaces are written. Inside a string, quotes, backslashes and control characters below the space
are escaped and everything else stands for itself, so a written value never holds a line feed.
-/

namespace ScriptReview
namespace Json

/-- A control character by its code, in four digits. -/
def escapeCode (c : Char) : List Char :=
  let digits := Nat.toDigits 16 c.toNat
  ['\\', 'u'] ++ List.replicate (4 - digits.length) '0' ++ digits

/-- A character as it stands inside a string. -/
def escapeChar (c : Char) : List Char :=
  match c with
  | '"' => ['\\', '"']
  | '\\' => ['\\', '\\']
  | '\x08' => ['\\', 'b']
  | '\x0c' => ['\\', 'f']
  | '\n' => ['\\', 'n']
  | '\r' => ['\\', 'r']
  | '\t' => ['\\', 't']
  | c => if c.toNat < 0x20 then escapeCode c else [c]

/-- A string between quotes. -/
def printString (text : String) : List Char :=
  '"' :: (text.toList.flatMap escapeChar ++ ['"'])

def printInt (value : Int) : List Char :=
  (toString value).toList

def printNumber : Number → List Char
  | .integer value => printInt value
  | .decimal negative digits exponent =>
    (if negative then ['-'] else []) ++ (toString digits).toList ++ ['e'] ++ printInt exponent

mutual

def print : Json → List Char
  | null => "null".toList
  | boolean value => (if value then "true" else "false").toList
  | number value => printNumber value
  | string value => printString value
  | array items => '[' :: (printItems items ++ [']'])
  | object fields => '\x7b' :: (printFields fields ++ ['\x7d'])

def printItems : List Json → List Char
  | [] => []
  | [last] => print last
  | item :: second :: more => print item ++ ',' :: printItems (second :: more)

def printFields : List (String × Json) → List Char
  | [] => []
  | [(name, value)] => printString name ++ ':' :: print value
  | (name, value) :: second :: more =>
    printString name ++ ':' :: (print value ++ ',' :: printFields (second :: more))

end

/-- The value as text. -/
def render (value : Json) : String := String.ofList (print value)

end Json
end ScriptReview
