import ScriptReview.Toml.Document

/-!
Putting the sections of a TOML document together.

A table is defined once. A header may only come back to a table that so far was named by headers of
tables inside it, and that table then takes its place at the end, where its header stands. A header
in double brackets adds a table to a list of tables.
-/

namespace ScriptReview
namespace Toml

/-- The entries under one header. -/
structure Section where
  isSeries : Bool
  key : Key
  entries : List Entry

/-- The entries before the first header, and the sections. -/
def sections : List Line → List Entry × List Section
  | [] => ([], [])
  | .entry entry :: lines =>
    let (entries, later) := sections lines
    (entry :: entries, later)
  | .tableHeader key :: lines =>
    let (entries, later) := sections lines
    ([], ⟨false, key, entries⟩ :: later)
  | .seriesHeader key :: lines =>
    let (entries, later) := sections lines
    ([], ⟨true, key, entries⟩ :: later)

/-- Add a table with its entries. -/
def addTable (key : String) (added : List Entry) (entries : Entries) : Option Entries := do
  let start ←
    match entries.find? key with
    | none => some []
    | some (.table .implied inner) => some inner
    | some _ => none
  let built ← Entries.insertAll start added
  some ((entries.erase key).push key (.table .header built))

/-- Add a table with its entries to a list of tables. -/
def addToSeries (key : String) (added : List Entry) (entries : Entries) : Option Entries := do
  let built ← Entries.insertAll [] added
  match entries.find? key with
  | none => some (entries.push key (.series [built]))
  | some (.series tables) => some (entries.replace key (.series (tables ++ [built])))
  | some _ => none

def addSection (entries : Entries) (part : Section) : Option Entries :=
  let add := if part.isSeries then addToSeries else addTable
  Entries.update false (fun _ inner => add part.key.last part.entries inner) part.key.path .header
    entries

/-- The table that the lines of a document write. -/
def assemble (lines : List Line) : Option (List (String × Toml)) := do
  let (entries, later) := sections lines
  let root ← Entries.insertAll [] entries
  let root ← later.foldlM addSection root
  some (Node.entriesToToml root)

/-- The table that a document writes, if it is a document of TOML. -/
def parse? (text : String) : Option (List (String × Toml)) := do
  assemble (← readLines text)

end Toml
end ScriptReview
