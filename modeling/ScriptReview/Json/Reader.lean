import ScriptReview.Json.Value
import ScriptReview.Text.Reader

/-!
Reading JSON.

The grammar is that of RFC 8259. Values may be nested 128 deep. What is read keeps every field and
every digit.
-/

namespace ScriptReview
namespace Json

open Text

def isSpace (c : Char) : Bool :=
  c == ' ' || c == '\t' || c == '\n' || c == '\r'

def skipSpace (text : List Char) : List Char :=
  text.dropWhile isSpace

/-! ## Strings -/

/-- The number that four hexadecimal digits write. -/
def codeUnit? (a b c d : Char) : Option Nat :=
  if [a, b, c, d].all (isDigitIn 16) then some (numeral 16 [a, b, c, d]) else none

/-- The character that two halves of a surrogate pair stand for. -/
def surrogatePair? (high low : Nat) : Option Char :=
  if 0xD800 ≤ high && high < 0xDC00 && 0xDC00 ≤ low && low < 0xE000 then
    charOfCode? (0x10000 + (high - 0xD800) * 0x400 + (low - 0xDC00))
  else none

/-- The character that a letter after a backslash stands for. -/
def escaped? : Char → Option Char
  | '"' => some '"'
  | '\\' => some '\\'
  | '/' => some '/'
  | 'b' => some '\x08'
  | 'f' => some '\x0c'
  | 'n' => some '\n'
  | 'r' => some '\r'
  | 't' => some '\t'
  | _ => none

/-- Reads up to the closing quote. -/
def stringBody : Reader (List Char)
  | [] => none
  | '"' :: rest => some ([], rest)
  | '\\' :: 'u' :: a :: b :: c :: d :: rest => do
    let first ← codeUnit? a b c d
    match charOfCode? first with
    | some found =>
      let (more, rest) ← stringBody rest
      some (found :: more, rest)
    | none =>
      match rest with
      | '\\' :: 'u' :: e :: f :: g :: h :: rest =>
        let found ← surrogatePair? first (← codeUnit? e f g h)
        let (more, rest) ← stringBody rest
        some (found :: more, rest)
      | _ => none
  | '\\' :: letter :: rest => do
    let found ← escaped? letter
    let (more, rest) ← stringBody rest
    some (found :: more, rest)
  | c :: rest =>
    if c.toNat < 0x20 || c = '\\' then none
    else do
      let (more, rest) ← stringBody rest
      some (c :: more, rest)

def string? : Reader String
  | '"' :: rest => (stringBody rest).map fun (text, rest) => (String.ofList text, rest)
  | _ => none

/-! ## Numbers -/

/-- Digits of an integer. Only zero itself begins with a zero. -/
def integerDigits : Reader (List Char)
  | '0' :: rest => some (['0'], rest)
  | c :: rest =>
    if isDigit c then
      let (digits, rest) := Reader.span isDigit rest
      some (c :: digits, rest)
    else none
  | [] => none

/-- The digits after a decimal point, if there is a point. -/
def fractionDigits : Reader (Option (List Char))
  | '.' :: c :: rest =>
    if isDigit c then
      let (digits, rest) := Reader.span isDigit rest
      some (some (c :: digits), rest)
    else none
  | '.' :: [] => none
  | text => some (none, text)

/-- The digits after the sign of an exponent. -/
def exponentDigits (negative : Bool) : Reader (Option Int)
  | c :: rest =>
    if isDigit c then
      let (digits, rest) := Reader.span isDigit rest
      let value := numeral 10 (c :: digits)
      some (some (if negative then -(value : Int) else value), rest)
    else none
  | [] => none

/-- An exponent, if there is one. -/
def exponentPart : Reader (Option Int)
  | c :: rest =>
    if c = 'e' || c = 'E' then
      match rest with
      | '-' :: rest => exponentDigits true rest
      | '+' :: rest => exponentDigits false rest
      | rest => exponentDigits false rest
    else some (none, c :: rest)
  | [] => some (none, [])

/-- A number after its sign. -/
def unsigned (negative : Bool) : Reader Number := fun text => do
  let (whole, rest) ← integerDigits text
  let (fraction, rest) ← fractionDigits rest
  let (power, rest) ← exponentPart rest
  let places := fraction.getD []
  let digits := numeral 10 (whole ++ places)
  if fraction.isNone && power.isNone && !(negative && digits == 0) then
    some (.integer (if negative then -(digits : Int) else digits), rest)
  else
    some (.decimal negative digits (power.getD 0 - places.length), rest)

def number? : Reader Number
  | '-' :: rest => unsigned true rest
  | text => unsigned false text

/-! ## Values -/

/-- A comma with space around it. -/
def comma (text : List Char) : Option (Unit × List Char) :=
  Reader.char ',' (skipSpace text)

/-- The items of an array and its closing bracket. -/
def items (item : Reader Json) : Reader Json := fun text =>
  match skipSpace text with
  | ']' :: rest => some (array [], rest)
  | text => do
    let (found, rest) ← Reader.separated item comma text.length text
    let (_, rest) ← Reader.char ']' (skipSpace rest)
    some (array found, rest)

/-- A name, a colon and a value. -/
def field (item : Reader Json) : Reader (String × Json) := fun text => do
  let (name, rest) ← string? (skipSpace text)
  let (_, rest) ← Reader.char ':' (skipSpace rest)
  let (value, rest) ← item rest
  some ((name, value), rest)

/-- The fields of an object and its closing brace. -/
def fields (item : Reader Json) : Reader Json := fun text =>
  match skipSpace text with
  | '\x7d' :: rest => some (object [], rest)
  | text => do
    let (found, rest) ← Reader.separated (field item) comma text.length text
    let (_, rest) ← Reader.char '\x7d' (skipSpace rest)
    some (object found, rest)

/-- A value that holds no other value. -/
def scalar : Reader Json
  | 'n' :: rest => (Reader.literal "ull".toList rest).map fun (_, rest) => (null, rest)
  | 't' :: rest => (Reader.literal "rue".toList rest).map fun (_, rest) => (boolean true, rest)
  | 'f' :: rest => (Reader.literal "alse".toList rest).map fun (_, rest) => (boolean false, rest)
  | '"' :: rest => (string? ('"' :: rest)).map fun (text, rest) => (string text, rest)
  | text => (number? text).map fun (value, rest) => (number value, rest)

/-- A value, in which arrays and objects may be nested so deep. -/
def value : Nat → Reader Json
  | 0, text => scalar (skipSpace text)
  | depth + 1, text =>
    match skipSpace text with
    | '[' :: rest => items (value depth) rest
    | '\x7b' :: rest => fields (value depth) rest
    | text => scalar text

def maxDepth : Nat := 128

/-- The value that a text writes, if it writes one and nothing else. -/
def parse? (text : String) : Option Json :=
  match value maxDepth text.toList with
  | some (found, rest) => if (skipSpace rest).isEmpty then some found else none
  | none => none

end Json
end ScriptReview
