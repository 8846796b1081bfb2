import ScriptReview.Decimal.Binary64

/-!
TOML values.

The entries of a table keep the order in which they were written. A table that is written as a list
of `[[name]]` sections is told apart from an array of inline tables.
-/

namespace ScriptReview

inductive Toml where
  | string (value : String)
  | integer (value : Int)
  | float (value : Binary64)
  | boolean (value : Bool)
  /-- A date, a time of day, or both, as written. -/
  | dateTime (text : String)
  | array (items : List Toml)
  | series (tables : List (List (String × Toml)))
  | table (entries : List (String × Toml))

namespace Toml

instance : Inhabited Toml := ⟨table []⟩

/-- The name of the kind of a value. -/
def kindName : Toml → String
  | string _ => "string"
  | integer _ => "integer"
  | float _ => "float"
  | boolean _ => "boolean"
  | dateTime _ => "datetime"
  | array _ => "array"
  | series _ => "array of tables"
  | table _ => "table"

end Toml
end ScriptReview
