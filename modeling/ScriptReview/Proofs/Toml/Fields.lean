import ScriptReview.Proofs.Entries
import ScriptReview.Proofs.Schema
import ScriptReview.Proofs.Toml.Distinct
import ScriptReview.Toml.Decode

/-!
Fields of a record that is read.

The entries of a table are taken over one after the other. Where no key comes twice, a field ends up
with the value under its own key, or with the one it had before if there is no such key
(`foldlM_eq_ok_iff_elim_lookup`). What is read from a plain value determines the value.
-/

namespace ScriptReview

open Schema

namespace Toml

/-! ## Entries one after the other -/

section Entries

variable {α : Type} {name : String} {read : Toml → Except Mismatch α}

/-- A field that the first entry may give and that the later entries may give, but not both. -/
theorem elim_lookup_cons_eq_ok_iff {key : String} {value : Toml} {entries : List (String × Toml)}
    (hnew : key ∉ entries.map Prod.fst) {before after : α} :
    (((key, value) :: entries).lookup name).elim (.ok before) read = .ok after ↔
      ∃ between, (if key = name then read value else .ok before) = .ok between ∧
        (entries.lookup name).elim (.ok between) read = .ok after := by
  rw [lookup_cons_eq_ite]
  by_cases hname : key = name
  · subst hname
    simp [lookup_eq_none_iff_notMem.mpr hnew]
  · rw [if_neg (Ne.symm hname)]
    simp [hname]

/-- A record with one field. -/
theorem foldlM_eq_ok_iff_elim_lookup (name : String) (read : Toml → Except Mismatch α)
    {entries : List (String × Toml)} (hkeys : (entries.map Prod.fst).Nodup) {start last : α} :
    entries.foldlM (fun found (key, value) => if key == name then read value else return found)
        start = .ok last ↔
      (entries.lookup name).elim (.ok start) read = .ok last := by
  induction entries generalizing start with
  | nil => exact Iff.rfl
  | cons entry entries ih =>
    obtain ⟨key, value⟩ := entry
    obtain ⟨hnew, hlater⟩ := List.nodup_cons.mp hkeys
    rw [List.foldlM_cons, bind_eq_ok_iff, elim_lookup_cons_eq_ok_iff hnew]
    refine exists_congr fun between => and_congr ?_ (ih hlater)
    simp only [beq_iff_eq]
    exact Iff.rfl

theorem exists_elim_eq_ok_iff {given : Option Toml} {default : α} :
    (∃ found, given.elim (.ok default) read = .ok found) ↔
      ∀ value ∈ given, ∃ found, read value = .ok found := by
  cases given <;> simp

end Entries

/-! ## Tables and arrays alike -/

/-- The value of a field: under its name in a table, at its place in an array. -/
def Compound.field? (name : String) (place : Nat) : Compound → Option Toml
  | entries found => found.lookup name
  | items found => found[place]?

theorem Distinct.of_lookup {entries : List (String × Toml)} (h : (Toml.table entries).Distinct)
    {key : String} {value : Toml} (hvalue : entries.lookup key = some value) : value.Distinct := by
  obtain ⟨hkeys, hvalues⟩ := distinct_table_iff.mp h
  exact hvalues (key, value) ((lookup_eq_some_iff_mem hkeys).mp hvalue)

theorem Distinct.keys_of_compound? {value : Toml} (h : value.Distinct)
    {entries : List (String × Toml)} (hparts : value.compound? = some (.entries entries)) :
    (entries.map Prod.fst).Nodup := by
  cases value with
  | table entries =>
    cases hparts
    exact (distinct_table_iff.mp h).1
  | dateTime text =>
    cases hparts
    exact List.pairwise_singleton _ dateTimeKey
  | string | integer | float | boolean | array | series => cases hparts

theorem item_eq_elim {α : Type} (items : List Toml) (index : Nat) (default : α)
    (content : Toml → Except Mismatch α) :
    item items index default content = items[index]?.elim (.ok default) content := by
  rw [item]
  cases items[index]? <;> rfl

/-! ## Plain values -/

theorem asString_eq_ok_iff {value : Toml} {text : String} :
    value.asString = .ok text ↔ value = .string text := by
  cases value <;> simp [asString]

theorem asBool_eq_ok_iff {value : Toml} {found : Bool} :
    value.asBool = .ok found ↔ value = .boolean found := by
  cases value <;> simp [asBool]

theorem asNat_eq_ok_iff {value : Toml} {found : Nat} :
    value.asNat = .ok found ↔ value = .integer found := by
  cases value with
  | integer value =>
    rw [asNat, Toml.integer.injEq]
    by_cases hsign : 0 ≤ value
    · rw [if_pos hsign, Except.ok.injEq]
      omega
    · rw [if_neg hsign]
      constructor
      · exact nofun
      · omega
  | string | float | boolean | dateTime | array | series | table => simp [asNat]

/-- The value is the name, alone or as the one key of a table that holds nothing else. -/
def Names (value : Toml) (name : String) : Prop :=
  value = .string name ∨ value = .table [(name, .table [])] ∨ value = .table [(name, .array [])]

theorem emptyContent_eq_ok_iff {content : Toml} :
    emptyContent content = .ok () ↔ content = .table [] ∨ content = .array [] := by
  rw [emptyContent.eq_def]
  split <;> simp_all

/-- Of values with different names, that one is read whose name is given. -/
theorem asVariant_eq_ok_iff {α : Type} {values : List α} {nameOf : α → String}
    (hnames : (values.map nameOf).Nodup) {value : Toml} {found : α} (hfound : found ∈ values) :
    asVariant values nameOf value = .ok found ↔ value.Names (nameOf found) := by
  have hname : ∀ name, variant values nameOf name = .ok found ↔ name = nameOf found :=
    fun name => variant_eq_ok_iff hnames hfound
  cases value with
  | string name => simp [asVariant, Names, hname]
  | table entries =>
    match entries with
    | [] => simp [asVariant, Names]
    | [(name, content)] =>
      rw [asVariant, bind_eq_ok_iff]
      constructor
      · rintro ⟨known, hknown, hrest⟩
        obtain ⟨⟨⟩, hcontent, hresult⟩ := bind_eq_ok_iff.mp hrest
        cases hresult
        obtain rfl := (hname name).mp hknown
        rcases emptyContent_eq_ok_iff.mp hcontent with rfl | rfl
        · exact .inr (.inl rfl)
        · exact .inr (.inr rfl)
      · intro h
        have hboth : name = nameOf found ∧ (content = .table [] ∨ content = .array []) := by
          simpa [Names, and_or_left] using h
        have hcontent := emptyContent_eq_ok_iff.mpr hboth.2
        exact ⟨found, (hname name).mpr hboth.1, bind_eq_ok_iff.mpr ⟨(), hcontent, rfl⟩⟩
    | _ :: _ :: _ => simp [asVariant, Names]
  | integer | float | boolean | dateTime | array | series => simp [asVariant, Names]

end Toml
end ScriptReview
