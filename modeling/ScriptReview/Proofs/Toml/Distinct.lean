import ScriptReview.Proofs.Entries
import ScriptReview.Toml.Assembly

/-!
Keys of a document under construction.

No table of a document has one key twice. Every step of putting the sections together keeps this
(`distinct_of_assemble`): a part is only added under a key that is free, and everything else is put
in the place of a part with the same key.
-/

namespace ScriptReview
namespace Toml

/-- What each step of a fold keeps holds at its end. -/
theorem of_foldlM_eq_some {α β : Type} {P : β → Prop} {step : β → α → Option β} {steps : List α}
    (hstep : ∀ a ∈ steps, ∀ b next, P b → step b a = some next → P next) {start last : β}
    (hstart : P start) (h : steps.foldlM step start = some last) : P last := by
  induction steps generalizing start with
  | nil =>
    cases h
    exact hstart
  | cons a steps ih =>
    obtain ⟨next, hnext, hrest⟩ := Option.bind_eq_some_iff.mp h
    obtain ⟨hfirst, hlater⟩ := List.forall_mem_cons.mp hstep
    exact ih hlater (hfirst start next hstart hnext) hrest

/-- No table in the value has one key twice. -/
inductive Distinct : Toml → Prop
  | string (value : String) : Distinct (.string value)
  | integer (value : Int) : Distinct (.integer value)
  | float (value : Binary64) : Distinct (.float value)
  | boolean (value : Bool) : Distinct (.boolean value)
  | dateTime (text : String) : Distinct (.dateTime text)
  | array {items : List Toml} : (∀ item ∈ items, Distinct item) → Distinct (.array items)
  | series {tables : List (List (String × Toml))} :
    (∀ entries ∈ tables, Distinct (.table entries)) → Distinct (.series tables)
  | table {entries : List (String × Toml)} :
    (entries.map Prod.fst).Nodup → (∀ entry ∈ entries, Distinct entry.2) →
      Distinct (.table entries)

theorem distinct_table_iff {entries : List (String × Toml)} :
    (table entries).Distinct ↔
      (entries.map Prod.fst).Nodup ∧ ∀ entry ∈ entries, entry.2.Distinct := by
  constructor
  · rintro (_ | _ | _ | _ | _ | _ | _ | ⟨hkeys, hvalues⟩)
    exact ⟨hkeys, hvalues⟩
  · rintro ⟨hkeys, hvalues⟩
    exact .table hkeys hvalues

theorem distinct_series_iff {tables : List (List (String × Toml))} :
    (series tables).Distinct ↔ ∀ entries ∈ tables, (table entries).Distinct := by
  constructor
  · rintro (_ | _ | _ | _ | _ | _ | htables | _)
    exact htables
  · exact .series

/-! ## Tables under construction -/

namespace Node

theorem entriesToToml_eq_map (entries : Entries) :
    entriesToToml entries = entries.map fun entry => (entry.1, entry.2.toToml) := by
  induction entries with
  | nil => rfl
  | cons entry entries ih =>
    obtain ⟨key, node⟩ := entry
    rw [entriesToToml, ih, List.map_cons]

theorem tablesToToml_eq_map (tables : List Entries) :
    tablesToToml tables = tables.map entriesToToml := by
  induction tables with
  | nil => rfl
  | cons entries tables ih => rw [tablesToToml, ih, List.map_cons]

end Node

namespace Entries

/-- As far as it is built, no table in these entries has one key twice. -/
def Distinct (entries : Entries) : Prop :=
  (table (Node.entriesToToml entries)).Distinct

theorem distinct_iff {entries : Entries} :
    entries.Distinct ↔
      (entries.map Prod.fst).Nodup ∧ ∀ entry ∈ entries, entry.2.toToml.Distinct := by
  rw [Distinct, distinct_table_iff, Node.entriesToToml_eq_map, List.map_map, List.forall_mem_map]
  rfl

theorem distinct_nil : Distinct [] := distinct_iff.mpr ⟨List.nodup_nil, by simp⟩

theorem distinct_toToml_series {tables : List Entries} :
    (Node.series tables).toToml.Distinct ↔ ∀ entries ∈ tables, entries.Distinct := by
  rw [Node.toToml, distinct_series_iff, Node.tablesToToml_eq_map, List.forall_mem_map]
  rfl

section Steps

variable {entries : Entries} {key : String} {node : Node}

theorem Distinct.of_find? (h : entries.Distinct) (hfound : find? entries key = some node) :
    node.toToml.Distinct := by
  have hmem := (lookup_eq_some_iff_mem (distinct_iff.mp h).1).mp hfound
  exact (distinct_iff.mp h).2 (key, node) hmem

theorem Distinct.push (h : entries.Distinct) (hnew : find? entries key = none)
    (hnode : node.toToml.Distinct) : (push entries key node).Distinct := by
  obtain ⟨hkeys, hvalues⟩ := distinct_iff.mp h
  have hkey : key ∉ entries.map Prod.fst := lookup_eq_none_iff_notMem.mp hnew
  refine distinct_iff.mpr ⟨?_, ?_⟩
  · rw [Entries.push, List.map_append, List.map_singleton, List.nodup_append]
    refine ⟨hkeys, List.pairwise_singleton _ _, fun other hother last hlast => ?_⟩
    rw [List.mem_singleton.mp hlast]
    rintro rfl
    exact hkey hother
  · intro entry hentry
    rcases List.mem_append.mp hentry with hmem | hmem
    · exact hvalues entry hmem
    · rw [List.mem_singleton.mp hmem]
      exact hnode

theorem keys_replace (entries : Entries) (key : String) (node : Node) :
    (replace entries key node).map Prod.fst = entries.map Prod.fst := by
  rw [replace, List.map_map]
  refine List.map_congr_left fun entry _ => ?_
  by_cases hkey : (entry.1 == key) = true
  · rw [Function.comp_apply, if_pos hkey]
    exact (beq_iff_eq.mp hkey).symm
  · rw [Function.comp_apply, if_neg hkey]

theorem Distinct.replace (h : entries.Distinct) (hnode : node.toToml.Distinct) :
    (replace entries key node).Distinct := by
  obtain ⟨hkeys, hvalues⟩ := distinct_iff.mp h
  refine distinct_iff.mpr ⟨(keys_replace entries key node).symm ▸ hkeys, ?_⟩
  refine List.forall_mem_map.mpr fun entry hentry => ?_
  split
  · exact hnode
  · exact hvalues entry hentry

theorem Distinct.erase (h : entries.Distinct) (key : String) : (erase entries key).Distinct := by
  obtain ⟨hkeys, hvalues⟩ := distinct_iff.mp h
  refine distinct_iff.mpr ⟨hkeys.sublist (List.filter_sublist.map Prod.fst), fun entry hentry => ?_⟩
  exact hvalues entry (List.mem_filter.mp hentry).1

theorem find?_erase (entries : Entries) (key : String) : find? (erase entries key) key = none := by
  refine lookup_eq_none_iff_notMem.mpr fun hmem => ?_
  obtain ⟨entry, hentry, hkey⟩ := List.mem_map.mp hmem
  have hne := (List.mem_filter.mp hentry).2
  simp [hkey] at hne

end Steps

/-- Whatever is done at the end of a path, the tables on the way stay distinct. -/
theorem Distinct.update {isDotted : Bool} {change : Origin → Entries → Option Entries}
    (hchange : ∀ origin entries changed, Distinct entries → change origin entries = some changed →
      changed.Distinct)
    {path : List String} {origin : Origin} {entries updated : Entries} (h : entries.Distinct)
    (hupdated : update isDotted change path origin entries = some updated) :
    updated.Distinct := by
  induction path generalizing origin entries updated with
  | nil => exact hchange origin entries updated h hupdated
  | cons key path ih =>
    rw [Entries.update] at hupdated
    cases hfound : find? entries key with
    | none =>
      rw [hfound] at hupdated
      obtain ⟨created, hcreated, hresult⟩ := Option.bind_eq_some_iff.mp hupdated
      cases hresult
      exact h.push hfound (ih distinct_nil hcreated)
    | some node =>
      have hnode := h.of_find? hfound
      rw [hfound] at hupdated
      cases node with
      | leaf value => exact absurd hupdated nofun
      | series tables =>
        -- The path goes on in the last table, and the others stay as they are.
        obtain ⟨last, hlast, hrest⟩ := Option.bind_eq_some_iff.mp hupdated
        obtain ⟨changed, hchanged, hresult⟩ := Option.bind_eq_some_iff.mp hrest
        cases hresult
        have htables := distinct_toToml_series.mp hnode
        have hinner := ih (htables last (List.mem_of_getLast? hlast)) hchanged
        refine h.replace (distinct_toToml_series.mpr fun table htable => ?_)
        rcases List.mem_append.mp htable with hmem | hmem
        · exact htables table ((List.dropLast_sublist tables).subset hmem)
        · rw [List.mem_singleton.mp hmem]
          exact hinner
      | table origin inner =>
        by_cases hclosed : (isDotted && decide (origin = .header)) = true
        · simp [hclosed] at hupdated
        · simp only [hclosed] at hupdated
          obtain ⟨changed, hchanged, hresult⟩ := Option.bind_eq_some_iff.mp hupdated
          cases hresult
          exact h.replace (ih hnode hchanged)

theorem Distinct.insertValue {path : List String} {key : String} {value : Toml}
    {entries updated : Entries} (h : entries.Distinct) (hvalue : value.Distinct)
    (hupdated : insertValue path key value entries = some updated) : updated.Distinct := by
  refine h.update (fun origin inner changed hinner hchanged => ?_) hupdated
  by_cases hclosed : (decide (origin = .dotted) == path.isEmpty) = true
  · simp [hclosed] at hchanged
  · cases hfound : find? inner key with
    | some node => simp [hfound] at hchanged
    | none =>
      simp only [hclosed, hfound] at hchanged
      cases hchanged
      exact hinner.push hfound hvalue

theorem Distinct.insertAll {added : List Entry} (hadded : ∀ entry ∈ added, entry.value.Distinct)
    {entries updated : Entries} (h : entries.Distinct)
    (hupdated : insertAll entries added = some updated) : updated.Distinct :=
  of_foldlM_eq_some (fun entry hentry _ _ hbefore hnext =>
    Distinct.insertValue hbefore (hadded entry hentry) hnext) h hupdated

end Entries

/-! ## Sections -/

section Sections

variable {key : String} {added : List Entry} {entries updated : Entries}

theorem distinct_addTable (hadded : ∀ entry ∈ added, entry.value.Distinct)
    (h : entries.Distinct) (hupdated : addTable key added entries = some updated) :
    updated.Distinct := by
  have hbuild : ∀ start : Entries, start.Distinct →
      ((Entries.insertAll start added).bind fun built =>
        some ((entries.erase key).push key (.table .header built))) = some updated →
      updated.Distinct := by
    intro start hstart hresult
    obtain ⟨built, hbuilt, hpushed⟩ := Option.bind_eq_some_iff.mp hresult
    cases hpushed
    exact (h.erase key).push (Entries.find?_erase entries key) (hstart.insertAll hadded hbuilt)
  rw [addTable] at hupdated
  cases hfound : entries.find? key with
  | none =>
    rw [hfound] at hupdated
    exact hbuild [] Entries.distinct_nil hupdated
  | some node =>
    have hnode := h.of_find? hfound
    rw [hfound] at hupdated
    cases node with
    | leaf value => exact absurd hupdated nofun
    | series tables => exact absurd hupdated nofun
    | table origin inner =>
      -- Only headers of tables inside it may have named the table before.
      cases origin with
      | implied => exact hbuild inner hnode hupdated
      | header => exact absurd hupdated nofun
      | dotted => exact absurd hupdated nofun

theorem distinct_addToSeries (hadded : ∀ entry ∈ added, entry.value.Distinct)
    (h : entries.Distinct) (hupdated : addToSeries key added entries = some updated) :
    updated.Distinct := by
  obtain ⟨built, hbuilt, hrest⟩ := Option.bind_eq_some_iff.mp hupdated
  have hdistinct := Entries.distinct_nil.insertAll hadded hbuilt
  cases hfound : entries.find? key with
  | none =>
    rw [hfound] at hrest
    cases hrest
    refine h.push hfound (Entries.distinct_toToml_series.mpr fun table htable => ?_)
    rw [List.mem_singleton.mp htable]
    exact hdistinct
  | some node =>
    have hnode := h.of_find? hfound
    rw [hfound] at hrest
    cases node with
    | leaf value => exact absurd hrest nofun
    | table origin inner => exact absurd hrest nofun
    | series tables =>
      cases hrest
      have htables := Entries.distinct_toToml_series.mp hnode
      refine h.replace (Entries.distinct_toToml_series.mpr fun table htable => ?_)
      rcases List.mem_append.mp htable with hmem | hmem
      · exact htables table hmem
      · rw [List.mem_singleton.mp hmem]
        exact hdistinct

theorem distinct_addSection {part : Section}
    (hadded : ∀ entry ∈ part.entries, entry.value.Distinct) (h : entries.Distinct)
    (hupdated : addSection entries part = some updated) : updated.Distinct := by
  refine h.update (fun origin inner changed hinner hchanged => ?_) hupdated
  cases hseries : part.isSeries with
  | true =>
    simp only [hseries, if_true] at hchanged
    exact distinct_addToSeries hadded hinner hchanged
  | false =>
    simp only [hseries, Bool.false_eq_true, if_false] at hchanged
    exact distinct_addTable hadded hinner hchanged

end Sections

/-- The values of the entries among the lines. -/
def lineValues (lines : List Line) : List Toml :=
  lines.filterMap fun
    | .entry entry => some entry.value
    | _ => none

theorem forall_mem_sections {P : Toml → Prop} {lines : List Line}
    (h : ∀ value ∈ lineValues lines, P value) :
    (∀ entry ∈ (sections lines).1, P entry.value) ∧
      ∀ part ∈ (sections lines).2, ∀ entry ∈ part.entries, P entry.value := by
  induction lines with
  | nil => simp [sections]
  | cons line lines ih =>
    cases line with
    | entry entry =>
      obtain ⟨hentry, hlines⟩ := List.forall_mem_cons.mp h
      obtain ⟨hfirst, hlater⟩ := ih hlines
      exact ⟨List.forall_mem_cons.mpr ⟨hentry, hfirst⟩, hlater⟩
    | tableHeader key =>
      obtain ⟨hfirst, hlater⟩ := ih h
      exact ⟨nofun, List.forall_mem_cons.mpr ⟨hfirst, hlater⟩⟩
    | seriesHeader key =>
      obtain ⟨hfirst, hlater⟩ := ih h
      exact ⟨nofun, List.forall_mem_cons.mpr ⟨hfirst, hlater⟩⟩

theorem distinct_of_assemble {lines : List Line} (h : ∀ value ∈ lineValues lines, value.Distinct)
    {entries : List (String × Toml)} (hassembled : assemble lines = some entries) :
    (table entries).Distinct := by
  obtain ⟨hfirst, hlater⟩ := forall_mem_sections h
  obtain ⟨start, hstart, hrest⟩ := Option.bind_eq_some_iff.mp hassembled
  obtain ⟨root, hroot, hresult⟩ := Option.bind_eq_some_iff.mp hrest
  cases hresult
  exact of_foldlM_eq_some (fun part hpart _ _ hbefore hnext =>
    distinct_addSection (hlater part hpart) hbefore hnext)
    (Entries.distinct_nil.insertAll hfirst hstart) hroot

end Toml
end ScriptReview
