/-!
Floating point numbers of 64 bits.

A finite number is a sign and a value `significand * 2 ^ exponent`. Everything is exact arithmetic
on natural numbers; the only inexact step is `ofRatio`, which rounds a quotient to the nearest
number and a tie to the even significand.
-/

namespace ScriptReview

/-- A floating point number of 64 bits. A significand has at most 53 bits and has fewer only where
the exponent is the smallest one. -/
inductive Binary64 where
  | finite (negative : Bool) (significand : Nat) (exponent : Int)
  | infinite (negative : Bool)
  | nan
  deriving DecidableEq

namespace Binary64

def twoTo (exponent : Nat) : Nat := Nat.pow 2 exponent

def tenTo (exponent : Nat) : Nat := Nat.pow 10 exponent

/-- Significands lie below this. -/
def significandLimit : Nat := twoTo 53

/-- The exponent below which no significand gets more digits. -/
def minExponent : Int := -1074

/-- The exponent above which numbers of 53 bits do not exist. -/
def maxExponent : Int := 971

/-- The quotient of two natural numbers, a half going to the even neighbour. -/
def roundDiv (num den : Nat) : Nat :=
  let quotient := num / den
  let rest := 2 * (num % den)
  if rest > den || (rest == den && quotient % 2 == 1) then quotient + 1 else quotient

/-- `num / den` as a whole number of units `2 ^ exponent`. -/
def unitsOf (num den : Nat) (exponent : Int) : Nat :=
  if 0 ≤ exponent then roundDiv num (den * twoTo exponent.toNat)
  else roundDiv (num * twoTo (-exponent).toNat) den

/-- The exponent at which `num / den` has a significand of 53 bits, or the smallest exponent. The
lengths of the two numbers fix it up to one, and the exact quotient decides. -/
def exponentOf (num den : Nat) : Int :=
  let guess : Int := (num.log2 : Int) - den.log2 - 53
  let exact :=
    if 0 ≤ guess then num / (den * twoTo guess.toNat) else num * twoTo (-guess).toNat / den
  max minExponent (if exact < significandLimit then guess else guess + 1)

/-- The number nearest to `num / den`, if it is not too large. -/
def nearest? (num den : Nat) : Option (Nat × Int) :=
  if num = 0 then some (0, minExponent)
  else
    let exponent := exponentOf num den
    let units := unitsOf num den exponent
    let (units, exponent) :=
      if units = significandLimit then (units / 2, exponent + 1) else (units, exponent)
    if exponent ≤ maxExponent then some (units, exponent) else none

/-- The floating point number nearest to a quotient. -/
def ofRatio (negative : Bool) (num den : Nat) : Binary64 :=
  match nearest? num den with
  | some (significand, exponent) => .finite negative significand exponent
  | none => .infinite negative

/-- A value `significand * 2 ^ exponent` as a quotient. -/
def toRatio (significand : Nat) (exponent : Int) : Nat × Nat :=
  if 0 ≤ exponent then (significand * twoTo exponent.toNat, 1)
  else (significand, twoTo (-exponent).toNat)

/-- How many decimal digits a number has. -/
def digitCount (n : Nat) : Nat := (Nat.toDigits 10 n).length

/-- The floating point number nearest to `digits * 10 ^ exponent`. Where the size alone decides, no
power of ten is formed. -/
def ofDecimal (negative : Bool) (digits : Nat) (exponent : Int) : Binary64 :=
  let size : Int := digitCount digits + exponent
  if digits = 0 || size < -330 then .finite negative 0 minExponent
  else if 330 < size then .infinite negative
  else if 0 ≤ exponent then ofRatio negative (digits * tenTo exponent.toNat) 1
  else ofRatio negative digits (tenTo (-exponent).toNat)

end Binary64
end ScriptReview
