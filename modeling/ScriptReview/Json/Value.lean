/-!
JSON values.

Numbers are kept exactly as written, so nothing is lost between reading and writing. Objects keep
the order of their fields, and a name may come twice until someone decides what that means.
-/

namespace ScriptReview

namespace Json

/-- A number: written as an integer, or as digits with a fraction or an exponent. -/
inductive Number where
  | integer (value : Int)
  /-- The value `digits * 10 ^ exponent`. Zero with a minus sign is of this kind too. -/
  | decimal (negative : Bool) (digits : Nat) (exponent : Int)
  deriving DecidableEq

end Json

inductive Json where
  | null
  | boolean (value : Bool)
  | number (value : Json.Number)
  | string (value : String)
  | array (items : List Json)
  | object (fields : List (String × Json))

namespace Json

instance : Inhabited Json := ⟨null⟩

/-- A natural number as a value. -/
def ofNat (n : Nat) : Json := number (.integer n)

/-- The field of a list that has the name; the last one counts. -/
def lastField? (fields : List (String × Json)) (name : String) : Option Json :=
  fields.foldl (fun found field => if field.1 == name then some field.2 else found) none

/-- The field of an object, if the value is an object and has the field. -/
def field? (name : String) : Json → Option Json
  | object fields => lastField? fields name
  | _ => none

/-- The fields in rising order of their names, each name once with its last value. -/
def orderedFields (fields : List (String × Json)) : List (String × Json) :=
  let names := (fields.map Prod.fst).mergeSort fun a b => decide (a ≤ b)
  names.eraseDups.filterMap fun name => (lastField? fields name).map fun value => (name, value)

end Json
end ScriptReview
