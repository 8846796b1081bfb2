import ScriptReview.Decimal.Binary64

/-!
The shortest decimal text of a floating point number.

Of all decimals that are read back as the number, the ones with the fewest digits are taken, and of
these the nearest. Which of two is taken that are equally near, and how the digits are set out, is a
`FloatFormat`.
-/

namespace ScriptReview
namespace Binary64

/-- Which of two neighbouring decimals is taken when a number lies half way between them. -/
inductive Tie where
  | upper
  /-- The one that ends in an even digit. -/
  | even
  deriving DecidableEq

/-- The decimals around a number that are rounded to it, on a common denominator. -/
structure Interval where
  low : Nat
  value : Nat
  high : Nat
  denominator : Nat
  /-- Do the two ends belong to the interval? -/
  closed : Bool

/-- Half way to both neighbours. Below a power of two the numbers lie twice as close. The ends are
rounded to the number when its significand is even. -/
def interval (significand : Nat) (exponent : Int) : Interval :=
  let below := if 2 * significand = significandLimit && exponent ≠ minExponent then 1 else 2
  let (scale, denominator) := toRatio 1 (exponent - 2)
  { low := (4 * significand - below) * scale
    value := 4 * significand * scale
    high := (4 * significand + 2) * scale
    denominator
    closed := significand % 2 == 0 }

/-- `candidate * 10 ^ exponent` and a value over a denominator, on one scale. -/
def onOneScale (candidate : Nat) (exponent : Int) (value denominator : Nat) : Nat × Nat :=
  if 0 ≤ exponent then (candidate * tenTo exponent.toNat * denominator, value)
  else (candidate * denominator, value * tenTo (-exponent).toNat)

namespace Interval

def contains (range : Interval) (candidate : Nat) (exponent : Int) : Bool :=
  let (x, low) := onOneScale candidate exponent range.low range.denominator
  let (_, high) := onOneScale candidate exponent range.high range.denominator
  if range.closed then low ≤ x && x ≤ high else low < x && x < high

/-- The neighbour that is nearer to the value. -/
def nearer (range : Interval) (tie : Tie) (lower : Nat) (exponent : Int) : Nat :=
  let (x, value) := onOneScale lower exponent range.value range.denominator
  let (y, _) := onOneScale (lower + 1) exponent range.value range.denominator
  if 2 * value < x + y then lower
  else if 2 * value = x + y && tie = .even && lower % 2 = 0 then lower
  else lower + 1

/-- The position of the decimal point: the value is below `10 ^ point` and not below a tenth of
it. -/
def point (range : Interval) : Int :=
  if range.denominator ≤ range.value then digitCount (range.value / range.denominator)
  else
    let ceiling := (range.denominator + range.value - 1) / range.value
    1 - (digitCount (ceiling - 1) : Int)

/-- The best decimal of so many digits, if one lies in the interval. -/
def withDigits? (range : Interval) (tie : Tie) (count : Nat) : Option (Nat × Int) :=
  let exponent := range.point - count
  let lower :=
    if 0 ≤ exponent then range.value / (range.denominator * tenTo exponent.toNat)
    else range.value * tenTo (-exponent).toNat / range.denominator
  match range.contains lower exponent, range.contains (lower + 1) exponent with
  | true, true => some (range.nearer tie lower exponent, exponent)
  | true, false => some (lower, exponent)
  | false, true => some (lower + 1, exponent)
  | false, false => none

end Interval

/-- Digits and exponent without zeros at the end of the digits. -/
def dropZeros : Nat → Nat × Int → Nat × Int
  | 0, decimal => decimal
  | fuel + 1, (digits, exponent) =>
    if digits ≠ 0 && digits % 10 = 0 then dropZeros fuel (digits / 10, exponent + 1)
    else (digits, exponent)

/-- The shortest decimal that is read back as the number. Seventeen digits always suffice. -/
def shortest (tie : Tie) (significand : Nat) (exponent : Int) : Nat × Int :=
  if significand = 0 then (0, 0)
  else
    let range := interval significand exponent
    let found := (List.range 17).findSome? fun n => range.withDigits? tie (n + 1)
    dropZeros 17 (found.getD (significand, exponent))

/-! ## Text -/

/-- How the digits of a number are set out. -/
structure FloatFormat where
  tie : Tie
  /-- Is a number with its decimal point at this place of the digits written without exponent? -/
  isPositional : Int → Bool

/-- Every number is written out in full. -/
def FloatFormat.plain : FloatFormat := ⟨.upper, fun _ => true⟩

/-- Numbers of more than sixteen digits before the point, or of more than four zeros after it, get
an exponent. -/
def FloatFormat.compact : FloatFormat := ⟨.even, fun point => -5 < point && point ≤ 16⟩

def zeros (count : Nat) : String := String.ofList (List.replicate count '0')

/-- All digits, with a decimal point and a digit on both sides of it. -/
def positional (digits : String) (point : Int) : String :=
  let length : Int := digits.length
  if length ≤ point then digits ++ zeros (point - length).toNat ++ ".0"
  else if 0 < point then
    String.ofList (digits.toList.take point.toNat) ++ "." ++
      String.ofList (digits.toList.drop point.toNat)
  else "0." ++ zeros (-point).toNat ++ digits

/-- An exponent, which always has a sign. -/
def signedExponent (exponent : Int) : String :=
  (if 0 ≤ exponent then "+" else "") ++ toString exponent

/-- One digit before the point and the exponent of ten. -/
def scientific (digits : String) (point : Int) : String :=
  let mantissa :=
    match digits.toList with
    | first :: second :: rest => String.ofList (first :: '.' :: second :: rest)
    | _ => digits
  mantissa ++ "e" ++ signedExponent (point - 1)

def toText (format : FloatFormat) : Binary64 → String
  | .nan => "NaN"
  | .infinite negative => if negative then "-inf" else "inf"
  | .finite negative significand exponent =>
    let sign := if negative then "-" else ""
    if significand = 0 then sign ++ "0.0"
    else
      let (digits, power) := shortest format.tie significand exponent
      let text := toString digits
      let point : Int := text.length + power
      sign ++ if format.isPositional point then positional text point else scientific text point

end Binary64
end ScriptReview
