import ScriptReview.Count
import ScriptReview.Decimal.Shortest
import ScriptReview.Json.Value
import ScriptReview.Rule.Id
import ScriptReview.Schema.Mismatch
import ScriptReview.Word64

/-!
Reading plain values and records out of JSON.

The fields of an object are looked at in the order of their names, and the first that does not fit
is the one reported. Only then are missing fields reported, in the order of the record. A record may
also be an array of its fields in their order.
-/

namespace ScriptReview
namespace Json

open Schema

/-! ## Numbers as a machine holds them -/

/-- The longest part at the front of the digits that fits into 64 bits, and how many digits are left
off. -/
def leadingDigits : Nat → Nat → Nat × Nat
  | 0, digits => (digits, 0)
  | fuel + 1, digits =>
    if Word64.fits digits then (digits, 0)
    else
      let (leading, dropped) := leadingDigits fuel (digits / 10)
      (leading, dropped + 1)

/-- A floating point number times a power of ten that is one itself. -/
def scale (value : Binary64) (power : Int) : Binary64 :=
  match value, Binary64.ofDecimal false 1 power.natAbs with
  | .finite negative significand exponent, .finite _ factor factorExponent =>
    let (num, den) := Binary64.toRatio significand exponent
    let (factorNum, factorDen) := Binary64.toRatio factor factorExponent
    if 0 ≤ power then Binary64.ofRatio negative (num * factorNum) (den * factorDen)
    else Binary64.ofRatio negative (num * factorDen) (den * factorNum)
  | value, _ => value

/-- A decimal as a floating point number. The leading digits are rounded first and then scaled by a
power of ten, in steps of at most 308 places. -/
def Number.toBinary64 (negative : Bool) (digits : Nat) (exponent : Int) : Binary64 :=
  let (leading, dropped) := leadingDigits (Binary64.digitCount digits) digits
  let power := exponent + dropped
  let whole := Binary64.ofRatio negative leading 1
  if -308 ≤ power then scale whole power
  else if -616 ≤ power then scale (scale whole (-308)) (power + 308)
  else .finite negative 0 Binary64.minExponent

/-- A number the way messages name it: an integer if it fits into 64 bits with or without sign, and
otherwise the floating point number. -/
def Number.found : Number → Found
  | .integer value =>
    if Word64.fitsSigned value || (0 ≤ value && Word64.fits value.toNat) then .integer value
    else .float ((toBinary64 (value < 0) value.natAbs 0).toText .compact)
  | .decimal negative digits exponent =>
    .float ((toBinary64 negative digits exponent).toText .compact)

def found : Json → Found
  | null => .null
  | boolean value => .boolean value
  | number value => value.found
  | string value => .string value
  | array _ => .sequence
  | object _ => .map

/-! ## Plain values -/

def asString : Json → Except Mismatch String
  | string value => .ok value
  | other => .error (.wrongType other.found "a string")

def asBool : Json → Except Mismatch Bool
  | boolean value => .ok value
  | other => .error (.wrongType other.found "a boolean")

/-- An integer that is not negative and not above the bound. The type is what messages call it. -/
def asNatBelow (bound : Nat) (type : String) : Json → Except Mismatch { n : Nat // n ≤ bound }
  | number (.integer value) =>
    match (Number.integer value).found with
    | .integer value =>
      if h : value.toNat ≤ bound ∧ 0 ≤ value then .ok ⟨value.toNat, h.1⟩
      else .error (.wrongValue (.integer value) type)
    | other => .error (.wrongType other type)
  | other => .error (.wrongType other.found type)

def asCount (value : Json) : Except Mismatch Count :=
  (asNatBelow Count.maximum "u32" value).map fun n => ⟨n.1, n.2⟩

def asRuleId (value : Json) : Except Mismatch RuleId := do
  match RuleId.ofString? (← asString value) with
  | some id => .ok id
  | none => .error .malformedRuleId

/-- A name of a variant, alone or as the one key of an object, whose value is then `null`. -/
def asVariant {α : Type} (values : List α) (nameOf : α → String) : Json → Except Mismatch α
  | string name => variant values nameOf name
  | object fields =>
    match orderedFields fields with
    | [(name, content)] => do
      let value ← variant values nameOf name
      match content with
      | null => .ok value
      | other => .error (.wrongType other.found "unit")
    | _ => .error (.wrongValue .map "map with a single key")
  | other => .error (.wrongType other.found "string or map")

def asList {α : Type} (item : Json → Except Mismatch α) : Json → Except Mismatch (List α)
  | array items => items.mapM item
  | other => .error (.wrongType other.found "a sequence")

/-! ## Records -/

/-- A field of an object, which need not be there. -/
def optional {α : Type} (fields : List (String × Json)) (name : String)
    (content : Json → Except Mismatch α) : Except Mismatch (Option α) :=
  match lastField? fields name with
  | some value => (content value).map some
  | none => .ok none

/-- A field of a record that is written as an array. -/
def element {α : Type} (items : List Json) (index : Nat) (expected : String)
    (content : Json → Except Mismatch α) : Except Mismatch α :=
  match items[index]? with
  | some value => content value
  | none => .error (.wrongLength index expected)

/-- An array holds no more than the fields of the record. -/
def noFurther (items : List Json) (count : Nat) : Except Mismatch Unit :=
  if items.length ≤ count then .ok ()
  else .error (.wrongLength items.length "fewer elements in array")

end Json
end ScriptReview
