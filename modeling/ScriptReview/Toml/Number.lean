import ScriptReview.Toml.Text
import ScriptReview.Toml.Value
import ScriptReview.Word64

/-!
Numbers, dates and times of TOML.

Single underscores may stand between digits. Integers have 64 bits. Dates are days of the calendar,
and times of day may hold a leap second.
-/

namespace ScriptReview
namespace Toml

open Text

/-! ## Digits -/

/-- Digits in a base with single underscores between them. The first argument says whether the
character before was a digit. The digits come without the underscores. -/
def digitsFrom (base : Nat) : Bool → Reader (List Char)
  | false, c :: rest =>
    if isDigitIn base c then do
      let (more, rest) ← digitsFrom base true rest
      some (c :: more, rest)
    else none
  | true, '_' :: rest => digitsFrom base false rest
  | true, c :: rest =>
    if isDigitIn base c then do
      let (more, rest) ← digitsFrom base true rest
      some (c :: more, rest)
    else some ([], c :: rest)
  | afterDigit, [] => if afterDigit then some ([], []) else none

/-- One or more digits in a base. -/
def digits (base : Nat) : Reader (List Char) := digitsFrom base false

/-- The digits of a decimal integer. Only zero itself begins with a zero. -/
def wholeDigits : Reader (List Char)
  | '0' :: rest => some (['0'], rest)
  | text => digits 10 text

/-- Takes a sign, if there is one, and says whether it is a minus sign. -/
def sign : List Char → Bool × List Char
  | '-' :: rest => (true, rest)
  | '+' :: rest => (false, rest)
  | text => (false, text)

/-! ## Integers and floating point numbers -/

/-- An integer of 64 bits. -/
def integerValue? (negative : Bool) (magnitude : Nat) : Option Toml :=
  let value : Int := if negative then -(magnitude : Int) else magnitude
  if Word64.fitsSigned value then some (.integer value) else none

/-- An integer in a base that is not ten, after its mark. It has no sign. -/
def basedInteger (base : Nat) : Reader Toml := fun text => do
  let (found, rest) ← digits base text
  let value ← integerValue? false (numeral base found)
  some (value, rest)

/-- The digits after a decimal point, if there is a point. -/
def fraction : Reader (Option (List Char))
  | '.' :: rest => do
    let (found, rest) ← digits 10 rest
    some (some found, rest)
  | text => some (none, text)

/-- An exponent of ten, if there is one. -/
def power : Reader (Option Int)
  | c :: rest =>
    if c = 'e' || c = 'E' then do
      let (negative, rest) := sign rest
      let (found, rest) ← digits 10 rest
      let value : Int := numeral 10 found
      some (some (if negative then -value else value), rest)
    else some (none, c :: rest)
  | [] => some (none, [])

/-- A floating point number. One that is too large is refused, unless it is negative: then it is the
negative infinity. -/
def floatValue? (negative : Bool) (digits : Nat) (exponent : Int) : Option Toml :=
  match Binary64.ofDecimal negative digits exponent with
  | .infinite false => none
  | value => some (.float value)

/-- A decimal number after its sign. It is an integer if it has neither fraction nor exponent. -/
def decimal (negative : Bool) : Reader Toml := fun text => do
  let (whole, rest) ← wholeDigits text
  let (places, rest) ← fraction rest
  let (exponent, rest) ← power rest
  let found ←
    if places.isNone && exponent.isNone then integerValue? negative (numeral 10 whole)
    else
      let places := places.getD []
      floatValue? negative (numeral 10 (whole ++ places)) (exponent.getD 0 - places.length)
  some (found, rest)

/-- A number after its sign: infinity, not a number, or decimal. -/
def signedNumber (negative : Bool) : Reader Toml
  | 'i' :: rest =>
    (Reader.literal "nf".toList rest).map fun (_, rest) => (.float (.infinite negative), rest)
  | 'n' :: rest => (Reader.literal "an".toList rest).map fun (_, rest) => (.float .nan, rest)
  | text => decimal negative text

def number : Reader Toml
  | '0' :: 'x' :: rest => basedInteger 16 rest
  | '0' :: 'o' :: rest => basedInteger 8 rest
  | '0' :: 'b' :: rest => basedInteger 2 rest
  | text => let (negative, rest) := sign text; signedNumber negative rest

/-! ## Dates and times -/

/-- A number of so many digits within bounds. -/
def field (count first last : Nat) : Reader Nat := fun text => do
  let (found, rest) ← Reader.exactly isDigit count text
  let value := numeral 10 found
  if first ≤ value && value ≤ last then some (value, rest) else none

def isLeapYear (year : Nat) : Bool :=
  year % 4 == 0 && (year % 100 != 0 || year % 400 == 0)

def daysInMonth (year month : Nat) : Nat :=
  match month with
  | 2 => if isLeapYear year then 29 else 28
  | 4 | 6 | 9 | 11 => 30
  | _ => 31

/-- A day of the calendar. -/
def date : Reader Unit := fun text => do
  let (year, rest) ← field 4 0 9999 text
  let (_, rest) ← Reader.char '-' rest
  let (month, rest) ← field 2 1 12 rest
  let (_, rest) ← Reader.char '-' rest
  let (_, rest) ← field 2 1 (daysInMonth year month) rest
  some ((), rest)

/-- Decimal places of a second, if there is a point. -/
def secondPlaces : Reader Unit
  | '.' :: c :: rest => if isDigit c then some ((), rest.dropWhile isDigit) else none
  | '.' :: [] => none
  | text => some ((), text)

/-- A time of day. -/
def time : Reader Unit := fun text => do
  let (_, rest) ← field 2 0 23 text
  let (_, rest) ← Reader.char ':' rest
  let (_, rest) ← field 2 0 59 rest
  let (_, rest) ← Reader.char ':' rest
  let (_, rest) ← field 2 0 60 rest
  secondPlaces rest

/-- The difference to universal time, if it is given. -/
def offset : Reader Unit
  | 'Z' :: rest => some ((), rest)
  | 'z' :: rest => some ((), rest)
  | c :: rest =>
    if c = '+' || c = '-' then do
      let (_, rest) ← field 2 0 23 rest
      let (_, rest) ← Reader.char ':' rest
      let (_, rest) ← field 2 0 59 rest
      some ((), rest)
    else some ((), c :: rest)
  | [] => some ((), [])

/-- Does a time of day follow after a date and the character between them? -/
def timeFollows : List Char → Bool
  | c :: h :: m :: ':' :: _ =>
    (c == 'T' || c == 't' || c == ' ') && (field 2 0 23 [h, m]).isSome
  | _ => false

/-- The end of a date with time, date or time of day. -/
def dateTimeEnd (text : List Char) : Option (List Char) :=
  match date text with
  | some (_, rest) =>
    if timeFollows rest then do
      let (_, rest) ← time (rest.drop 1)
      let (_, rest) ← offset rest
      some rest
    else some rest
  | none => (time text).map Prod.snd

/-- A date with time, date or time of day, kept as written. -/
def dateTimeValue : Reader Toml := fun text =>
  (dateTimeEnd text).map fun rest =>
    (.dateTime (String.ofList (text.take (text.length - rest.length))), rest)

/-- Does the text begin like a date or a time of day? No number has such a third or fifth
character. -/
def startsDateTime : List Char → Bool
  | a :: b :: ':' :: _ => isDigit a && isDigit b
  | a :: b :: c :: d :: '-' :: _ => [a, b, c, d].all isDigit
  | _ => false

/-- A number, date or time. -/
def numberOrDate : Reader Toml := fun text =>
  if startsDateTime text then dateTimeValue text else number text

end Toml
end ScriptReview
