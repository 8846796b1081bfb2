import ScriptReview.Decimal.Shortest
import ScriptReview.Rule.Id
import ScriptReview.Schema.Mismatch
import ScriptReview.Toml.Value

/-!
Reading plain values and records out of TOML.

The entries of a table are looked at in the order in which they are written, and the first that does
not fit is the one reported. A date or time counts as a table with one key that no record knows.
-/

namespace ScriptReview
namespace Toml

open Schema

def found : Toml → Found
  | string value => .string value
  | integer value => .integer value
  | float value => .float (value.toText .plain)
  | boolean value => .boolean value
  | dateTime _ => .map
  | array _ => .sequence
  | series _ => .sequence
  | table _ => .map

/-- The one key of a date or time that is taken for a table. -/
def dateTimeKey : String := "$__toml_private_datetime"

/-- A value with several parts: a table or a sequence. -/
inductive Compound where
  | entries (entries : List (String × Toml))
  | items (items : List Toml)

/-- The parts of a value, if it has parts. -/
def compound? : Toml → Option Compound
  | table entries => some (.entries entries)
  | dateTime text => some (.entries [(dateTimeKey, string text)])
  | array items => some (.items items)
  | series tables => some (.items (tables.map table))
  | _ => none

/-! ## Plain values -/

def asString : Toml → Except Mismatch String
  | string value => .ok value
  | other => .error (.wrongType other.found "a string")

def asBool : Toml → Except Mismatch Bool
  | boolean value => .ok value
  | other => .error (.wrongType other.found "a boolean")

/-- An integer that is not negative. -/
def asNat : Toml → Except Mismatch Nat
  | integer value =>
    if 0 ≤ value then .ok value.toNat else .error (.wrongValue (.integer value) "u64")
  | other => .error (.wrongType other.found "u64")

/-- What a variant holds when it is written as the key of a table: nothing. -/
def emptyContent : Toml → Except Mismatch Unit
  | table [] => .ok ()
  | array [] => .ok ()
  | table _ => .error .contentNotEmptyTable
  | array _ => .error .contentNotEmptyTable
  | series _ => .error .contentNotEmptyArray
  | other => .error (.contentNotTable other.kindName)

/-- A name of a variant, alone or as the one key of a table. -/
def asVariant {α : Type} (values : List α) (nameOf : α → String) : Toml → Except Mismatch α
  | string name => variant values nameOf name
  | table [] => .error .noVariant
  | table [(name, content)] => do
    let value ← variant values nameOf name
    emptyContent content
    return value
  | table _ => .error .severalVariants
  | _ => .error .notStringOrTable

/-! ## Records -/

/-- A record read from its entries or from its items. The type is what messages call it. -/
def asRecord {α : Type} (type : String) (ofEntries : List (String × Toml) → Except Mismatch α)
    (ofItems : List Toml → Except Mismatch α) (value : Toml) : Except Mismatch α :=
  match value.compound? with
  | some (.entries entries) => ofEntries entries
  | some (.items items) => ofItems items
  | none => .error (.wrongType value.found type)

/-- A field of a record that is written as a sequence, or its default. -/
def item {α : Type} (items : List Toml) (index : Nat) (default : α)
    (content : Toml → Except Mismatch α) : Except Mismatch α :=
  match items[index]? with
  | some value => content value
  | none => .ok default

end Toml
end ScriptReview
