import ScriptReview.Proofs.Report.Records
import ScriptReview.Render.RuleList

/-!
Reading lists of rules.

A list for programs has one JSON object on each line, and reading the lines gives the list back
(`RuleEntry.ofJsonLines?_jsonLines`), so that no two lists are written alike
(`RuleEntry.jsonLines_tell_entries`). The field for the severity may be missing, which is not the
same as an empty severity.
-/

namespace ScriptReview

/-- The field of an object that is a string. -/
def Json.stringField? (name : String) (value : Json) : Option String :=
  match value.field? name with
  | some (.string text) => some text
  | _ => none

/-- A field of an object that is a string if it is there. -/
def Json.optionalStringField? (name : String) (value : Json) : Option (Option String) :=
  match value.field? name with
  | some (.string text) => some (some text)
  | some _ => none
  | none => some none

def RuleSource.ofName? (name : String) : Option RuleSource :=
  [line, suggestion].find? (·.name == name)

theorem RuleSource.ofName?_name (source : RuleSource) : ofName? source.name = some source := by
  cases source <;> decide

namespace RuleEntry

def ofJson? (value : Json) : Option RuleEntry := do
  return {
    ruleId := ← Json.stringField? "rule_id" value
    description := ← Json.stringField? "description" value
    source := ← RuleSource.ofName? (← Json.stringField? "source" value)
    severity := ← Json.optionalStringField? "severity" value }

/-- Reads one line. -/
def ofText? (line : List Char) : Option RuleEntry :=
  (Json.parse? (String.ofList line)).bind ofJson?

/-- Reads a list of which every line ends with a line feed. -/
def ofJsonLines? (text : String) : Option (List RuleEntry) :=
  let lines := Text.lines text.toList
  if lines.getLast? = some [] then lines.dropLast.mapM ofText? else none

/-! ## Single entries -/

/-- The fields of the object that an entry is written as. -/
def fields (entry : RuleEntry) : List (String × Json) :=
  [("rule_id", .string entry.ruleId), ("source", .string entry.source.name),
    ("description", .string entry.description)] ++
      entry.severity.toList.map fun severity => ("severity", .string severity)

theorem record_eq (entry : RuleEntry) : entry.record = .object entry.fields := by
  rw [record, fields]
  cases entry.severity <;> rfl

theorem nodup_fields (entry : RuleEntry) : (entry.fields.map Prod.fst).Nodup := by
  rw [fields]
  cases entry.severity <;> simp

theorem exists_string_of_mem_fields {entry : RuleEntry} {field : String × Json}
    (h : field ∈ entry.fields) : ∃ text, field.2 = .string text := by
  simp only [fields, List.cons_append, List.nil_append, List.mem_cons, List.mem_map] at h
  rcases h with rfl | rfl | rfl | ⟨severity, -, rfl⟩ <;> exact ⟨_, rfl⟩

theorem nestedWithin_record (entry : RuleEntry) : Json.NestedWithin Json.maxDepth entry.record := by
  rw [record_eq]
  refine .object fun field hfield => ?_
  obtain ⟨text, htext⟩ := exists_string_of_mem_fields hfield
  rw [htext]
  exact .string text

theorem stringField?_of_mem {entry : RuleEntry} {name text : String}
    (h : (name, Json.string text) ∈ entry.fields) :
    Json.stringField? name entry.record = some text := by
  have hfield : Json.field? name entry.record = some (.string text) := by
    rw [record_eq]
    exact Json.lastField?_of_mem entry.nodup_fields h
  rw [Json.stringField?, hfield]

/-- A severity that is not there is left out, and so it is missing when the entry is read. -/
theorem optionalStringField?_severity (entry : RuleEntry) :
    Json.optionalStringField? "severity" entry.record = some entry.severity := by
  have hfield : Json.field? "severity" entry.record = entry.severity.map Json.string := by
    rw [record_eq, Json.field?]
    cases hseverity : entry.severity with
    | none =>
      rw [Option.map_none, Json.lastField?_eq_none_iff]
      simp [fields, hseverity]
    | some severity =>
      exact Json.lastField?_of_mem entry.nodup_fields (by simp [fields, hseverity])
  rw [Json.optionalStringField?, hfield]
  cases entry.severity <;> rfl

theorem ofJson?_record (entry : RuleEntry) : ofJson? entry.record = some entry := by
  have hid : Json.stringField? "rule_id" entry.record = some entry.ruleId :=
    stringField?_of_mem (by simp [fields])
  have hsource : Json.stringField? "source" entry.record = some entry.source.name :=
    stringField?_of_mem (by simp [fields])
  have hdescription : Json.stringField? "description" entry.record = some entry.description :=
    stringField?_of_mem (by simp [fields])
  simp [ofJson?, hid, hsource, hdescription, RuleSource.ofName?_name,
    optionalStringField?_severity]

theorem severity_mem_fields_iff (entry : RuleEntry) :
    "severity" ∈ entry.fields.map Prod.fst ↔ entry.severity ≠ none := by
  cases hseverity : entry.severity <;> simp [fields, hseverity]

theorem parse?_print (entry : RuleEntry) :
    Json.parse? (String.ofList (Json.print entry.record)) = some (.object entry.fields) := by
  have hread : Json.parse? (String.ofList (Json.print entry.record)) = some entry.record :=
    Json.parse?_render entry.nestedWithin_record
  rw [hread, record_eq]

theorem ofText?_print (entry : RuleEntry) : ofText? (Json.print entry.record) = some entry := by
  rw [ofText?, parse?_print, ← record_eq]
  exact ofJson?_record entry

/-! ## Whole lists -/

theorem lines_jsonLines (entries : List RuleEntry) :
    Text.lines (jsonLines entries).toList =
      (entries.map fun entry => Json.print entry.record) ++ [[]] := by
  rw [jsonLines, Json.lines_renderLines, List.map_map]
  rfl

/-- A list is written without loss. -/
theorem ofJsonLines?_jsonLines (entries : List RuleEntry) :
    ofJsonLines? (jsonLines entries) = some entries := by
  rw [ofJsonLines?, lines_jsonLines]
  simp only [List.getLast?_concat, if_true, List.dropLast_concat]
  exact mapM_map_eq_some ofText?_print entries

theorem jsonLines_injective : Function.Injective jsonLines := by
  intro entries others h
  have hread := ofJsonLines?_jsonLines entries
  rw [h, ofJsonLines?_jsonLines] at hread
  exact (Option.some.inj hread).symm

/-- A list for programs has a line for each entry, in the order of the entries. Each of them ends
with a line feed and is an object with the fields of its entry, no name twice, from which the entry
is read; the field for the severity is there just if there is a severity. So the list is read back
from its text, and no two lists have the same one. -/
theorem jsonLines_tell_entries :
    (∀ entries : List RuleEntry,
      (∃ written : List (List Char),
        Text.lines (jsonLines entries).toList = written ++ [[]] ∧
        List.Forall₂ (fun line entry =>
          Json.parse? (String.ofList line) = some (.object entry.fields) ∧
            (entry.fields.map Prod.fst).Nodup ∧
            ("severity" ∈ entry.fields.map Prod.fst ↔ entry.severity ≠ none) ∧
            ofText? line = some entry) written entries) ∧
      ofJsonLines? (jsonLines entries) = some entries) ∧
    Function.Injective jsonLines := by
  refine ⟨fun entries => ⟨⟨_, lines_jsonLines entries, ?_⟩, ofJsonLines?_jsonLines entries⟩,
    jsonLines_injective⟩
  rw [List.forall₂_map_left_iff, List.forall₂_same]
  intro entry _
  exact ⟨entry.parse?_print, entry.nodup_fields, entry.severity_mem_fields_iff, ofText?_print entry⟩

/-- An empty severity is not the same as none. -/
example :
    jsonLines [⟨"a", "", .line, some ""⟩] ≠ jsonLines [⟨"a", "", .line, none⟩] := by decide

end RuleEntry
end ScriptReview
