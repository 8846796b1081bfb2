import ScriptReview.Text.Quoted

/-!
How a value fails to have the shape that a record asks for.

The causes are the same for reports and for configurations, whatever the format they are written in.
Only the description of a number depends on the format, and so it is part of what was found.
-/

namespace ScriptReview
namespace Schema

/-- The value that was found where another one was expected. -/
inductive Found where
  | null
  | boolean (value : Bool)
  | integer (value : Int)
  | float (text : String)
  | string (value : String)
  | sequence
  | map
  deriving DecidableEq

namespace Found

def describe : Found → String
  | null => "null"
  | boolean value => "boolean `" ++ (if value then "true" else "false") ++ "`"
  | integer value => "integer `" ++ toString value ++ "`"
  | float text => "floating point `" ++ text ++ "`"
  | string value => "string " ++ Text.quote value
  | sequence => "sequence"
  | map => "map"

end Found

/-- Why a value does not have the expected shape. -/
inductive Mismatch where
  | wrongType (found : Found) (expected : String)
  | wrongValue (found : Found) (expected : String)
  | wrongLength (length : Nat) (expected : String)
  | missingField (name : String)
  | unknownVariant (name : String) (known : List String)
  | malformedRuleId
  /-- A name of a variant was expected, alone or as the one key of a table. -/
  | notStringOrTable
  | noVariant
  | severalVariants
  /-- What a variant holds has to be an empty table, here it is something else altogether. -/
  | contentNotTable (found : String)
  | contentNotEmptyTable
  | contentNotEmptyArray
  deriving DecidableEq

namespace Mismatch

def ticked (name : String) : String := "`" ++ name ++ "`"

/-- The alternatives of a choice in words. -/
def alternatives : List String → String
  | [] => "there are no variants"
  | [only] => "expected " ++ ticked only
  | [first, second] => "expected " ++ ticked first ++ " or " ++ ticked second
  | several => "expected one of " ++ ", ".intercalate (several.map ticked)

def message : Mismatch → String
  | wrongType found expected => "invalid type: " ++ found.describe ++ ", expected " ++ expected
  | wrongValue found expected => "invalid value: " ++ found.describe ++ ", expected " ++ expected
  | wrongLength length expected =>
    "invalid length " ++ toString length ++ ", expected " ++ expected
  | missingField name => "missing field " ++ ticked name
  | unknownVariant name known => "unknown variant " ++ ticked name ++ ", " ++ alternatives known
  | malformedRuleId => "Invalid rule ID"
  | notStringOrTable => "wanted string or table"
  | noVariant => "wanted exactly 1 element, found 0 elements"
  | severalVariants => "wanted exactly 1 element, more than 1 element"
  | contentNotTable found => "expected table, found " ++ found
  | contentNotEmptyTable => "expected empty table"
  | contentNotEmptyArray => "expected empty array"

end Mismatch

/-- The value of a type with few values that has the name. -/
def variant {α : Type} (values : List α) (nameOf : α → String) (name : String) :
    Except Mismatch α :=
  match values.find? fun value => nameOf value == name with
  | some value => .ok value
  | none => .error (.unknownVariant name (values.map nameOf))

/-- A field that has to be there. -/
def required {α : Type} (name : String) : Option α → Except Mismatch α
  | some value => .ok value
  | none => .error (.missingField name)

/-- How a record is named where its number of fields matters. -/
def elementsOf (record : String) (count : Nat) : String :=
  record ++ " with " ++ toString count ++ if count == 1 then " element" else " elements"

end Schema
end ScriptReview
