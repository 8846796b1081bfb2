import Mathlib.Data.List.Nodup
import ScriptReview.Json.Decode
import ScriptReview.Proofs.Schema

/-!
Values and records that are read.

For every plain value, which JSON value it is read from. A record is an object that has its fields,
in whatever order and with whatever else, or an array of nothing but its fields in their order
(`IsRecord`). What is asked of a field is a property of its value, so that one definition says both
which records can be read and what is read from them.
-/

namespace ScriptReview

open Schema

theorem nodup_eraseDups {α : Type} [BEq α] [LawfulBEq α] (values : List α) :
    values.eraseDups.Nodup := by
  match values with
  | [] => exact List.nodup_nil
  | first :: later =>
    rw [List.eraseDups_cons, List.nodup_cons]
    refine ⟨fun hmem => ?_, nodup_eraseDups _⟩
    have hfirst := (List.mem_filter.mp (List.mem_eraseDups.mp hmem)).2
    simp at hfirst
termination_by values.length
decreasing_by exact Nat.lt_succ_of_le (List.length_filter_le _ _)

namespace Json

/-! ## Fields of an object -/

/-- A look-up that begins with a value keeps it unless it finds another one. -/
theorem foldl_lastField? (fields : List (String × Json)) (name : String) (found : Option Json) :
    fields.foldl (fun found field => if field.1 == name then some field.2 else found) found =
      (lastField? fields name).or found := by
  induction fields generalizing found with
  | nil => rfl
  | cons field fields ih =>
    have hcons : lastField? (field :: fields) name =
        (lastField? fields name).or (if field.1 == name then some field.2 else none) := ih _
    rw [List.foldl_cons, ih, hcons, Option.or_assoc]
    cases field.1 == name <;> rfl

theorem lastField?_cons (field : String × Json) (fields : List (String × Json)) (name : String) :
    lastField? (field :: fields) name =
      (lastField? fields name).or (if field.1 == name then some field.2 else none) :=
  foldl_lastField? fields name _

theorem lastField?_eq_none_iff {fields : List (String × Json)} {name : String} :
    lastField? fields name = none ↔ name ∉ fields.map Prod.fst := by
  induction fields with
  | nil => simp [lastField?]
  | cons field fields ih =>
    rw [lastField?_cons, Option.or_eq_none_iff, ih, List.map_cons, List.mem_cons, not_or,
      and_comm, @eq_comm _ name]
    simp

/-- Where no name comes twice, each field is found. -/
theorem lastField?_of_mem {fields : List (String × Json)} (h : (fields.map Prod.fst).Nodup)
    {name : String} {value : Json} (hmem : (name, value) ∈ fields) :
    lastField? fields name = some value := by
  induction fields with
  | nil => cases hmem
  | cons field fields ih =>
    rw [List.map_cons, List.nodup_cons] at h
    rw [lastField?_cons]
    rcases List.mem_cons.mp hmem with rfl | hmem
    · rw [lastField?_eq_none_iff.mpr h.1, if_pos (beq_self_eq_true name)]
      rfl
    · rw [ih h.2 hmem]
      rfl

theorem mem_orderedFields_iff {fields : List (String × Json)} {name : String} {value : Json} :
    (name, value) ∈ orderedFields fields ↔ lastField? fields name = some value := by
  simp only [orderedFields, List.mem_filterMap, List.mem_eraseDups, List.mem_mergeSort,
    Option.map_eq_some_iff, Prod.mk.injEq, exists_eq_right_right]
  refine ⟨And.right, fun h => ⟨?_, h⟩⟩
  refine Decidable.byContradiction fun hmissing => ?_
  rw [lastField?_eq_none_iff.mpr hmissing] at h
  cases h

theorem nodup_orderedFields (fields : List (String × Json)) : (orderedFields fields).Nodup := by
  refine (nodup_eraseDups _).filterMap fun name other field hname hother => ?_
  obtain ⟨value, -, rfl⟩ := Option.map_eq_some_iff.mp hname
  obtain ⟨value', -, hsame⟩ := Option.map_eq_some_iff.mp hother
  exact (congrArg Prod.fst hsame).symm

/-- The one field that an object has. -/
theorem orderedFields_eq_singleton_iff {fields : List (String × Json)} {name : String}
    {value : Json} :
    orderedFields fields = [(name, value)] ↔
      ∀ key, lastField? fields key = if key = name then some value else none := by
  constructor
  · intro h key
    refine Option.ext fun found => ?_
    rw [← mem_orderedFields_iff, h, List.mem_singleton, Prod.mk.injEq]
    split <;> simp_all [eq_comm]
  · intro h
    have hsame : ∀ field, field ∈ orderedFields fields ↔ field ∈ [(name, value)] := by
      rintro ⟨key, found⟩
      rw [mem_orderedFields_iff, h, List.mem_singleton, Prod.mk.injEq]
      split <;> simp_all [eq_comm]
    exact List.Perm.eq_singleton ((List.perm_ext_iff_of_nodup (nodup_orderedFields fields)
      (List.nodup_singleton _)).mpr hsame)

/-! ## Plain values -/

theorem asString_eq_ok_iff {value : Json} {text : String} :
    asString value = .ok text ↔ value = .string text := by
  cases value <;> simp [asString]

theorem asRuleId_eq_ok_iff {value : Json} {id : RuleId} :
    asRuleId value = .ok id ↔ value = .string id.name := by
  rw [asRuleId, bind_eq_ok_iff]
  constructor
  · rintro ⟨name, hname, hid⟩
    obtain rfl := asString_eq_ok_iff.mp hname
    split at hid
    next found hfound =>
      cases hid
      rw [RuleId.name_of_ofString? hfound]
    next => cases hid
  · rintro rfl
    exact ⟨id.name, rfl, by simp only [RuleId.ofString?_name]⟩

theorem eq_of_found_integer {value found : Int}
    (h : (Number.integer value).found = .integer found) : value = found := by
  rw [Number.found] at h
  split at h
  · exact Found.integer.inj h
  · cases h

theorem asNatBelow_eq_ok_iff {bound : Nat} (hbound : Word64.fits bound = true) {type : String}
    {value : Json} {n : { n : Nat // n ≤ bound }} :
    asNatBelow bound type value = .ok n ↔ value = .ofNat n.1 := by
  constructor
  · intro h
    unfold asNatBelow at h
    split at h
    next value =>
      split at h
      next other hfound =>
        obtain rfl := eq_of_found_integer hfound
        split at h
        next hrange =>
          rw [← Except.ok.inj h, ofNat, Int.toNat_of_nonneg hrange.2]
        next => cases h
      next => cases h
    next => cases h
  · rintro rfl
    have hfits : Word64.fits n.1 = true :=
      decide_eq_true (Nat.lt_of_le_of_lt n.2 (of_decide_eq_true hbound))
    have hfound : (Number.integer n.1).found = .integer n.1 := by
      rw [Number.found, if_pos (by simp [hfits])]
    rw [ofNat, asNatBelow, hfound]
    simp [n.2]

/-- Zero with a minus sign and numbers with a fraction or an exponent are no integers. -/
theorem asCount_eq_ok_iff {value : Json} {count : Count} :
    asCount value = .ok count ↔ value = .ofNat count.toNat := by
  rw [asCount, map_eq_ok_iff]
  constructor
  · rintro ⟨n, hread, rfl⟩
    exact (asNatBelow_eq_ok_iff (by decide)).mp hread
  · intro h
    exact ⟨⟨count.toNat, count.toNat_le⟩, (asNatBelow_eq_ok_iff (by decide)).mpr h, rfl⟩

/-- The value is an array of items that write what is found, one by one. -/
def WritesList {α : Type} (Writes : α → Json → Prop) (found : List α) (value : Json) : Prop :=
  ∃ items, value = .array items ∧ List.Forall₂ (fun item a => Writes a item) items found

theorem asList_eq_ok_iff {α : Type} {item : Json → Except Mismatch α} {value : Json}
    {found : List α} :
    asList item value = .ok found ↔
      ∃ items, value = .array items ∧ List.Forall₂ (fun a b => item a = .ok b) items found := by
  cases value <;> simp [asList, mapM_eq_ok_iff_forall₂]

/-- The value is the name, alone or as the one key of an object, with `null` under it. -/
def Names (value : Json) (name : String) : Prop :=
  value = .string name ∨
    ∃ fields, value = .object fields ∧
      ∀ key, lastField? fields key = if key = name then some .null else none

/-- Of values with different names, that one is read whose name is given. -/
theorem asVariant_eq_ok_iff {α : Type} {values : List α} {nameOf : α → String}
    (hnames : (values.map nameOf).Nodup) {value : Json} {found : α} (hfound : found ∈ values) :
    asVariant values nameOf value = .ok found ↔ value.Names (nameOf found) := by
  have hname : ∀ name, variant values nameOf name = .ok found ↔ name = nameOf found :=
    fun name => variant_eq_ok_iff hnames hfound
  cases value with
  | string name => simp [asVariant, Names, hname]
  | object fields =>
    simp only [Names, reduceCtorEq, false_or, object.injEq, exists_eq_left',
      ← orderedFields_eq_singleton_iff]
    rw [asVariant]
    split
    next name content hfields =>
      rw [hfields, bind_eq_ok_iff, List.cons.injEq, Prod.mk.injEq]
      constructor
      · rintro ⟨known, hknown, hrest⟩
        split at hrest
        next =>
          cases hrest
          exact ⟨⟨(hname name).mp hknown, rfl⟩, rfl⟩
        next => cases hrest
      · rintro ⟨⟨rfl, rfl⟩, -⟩
        exact ⟨found, (hname _).mpr rfl, rfl⟩
    next hseveral =>
      exact ⟨nofun, fun h => absurd h (hseveral _ _)⟩
  | null | boolean | number | array => simp [asVariant, Names]

/-! ## Records -/

/-- A record in which each field holds what is asked of it: an object that has the fields, or an
array of their values and no others. -/
inductive IsRecord (asked : List (String × (Json → Prop))) : Json → Prop
  | object {fields : List (String × Json)}
    (h : ∀ field ∈ asked, ∃ given, lastField? fields field.1 = some given ∧ field.2 given) :
    IsRecord asked (object fields)
  | array {items : List Json} (h : List.Forall₂ (fun given field => field.2 given) items asked) :
    IsRecord asked (array items)

theorem isRecord_object_iff {asked : List (String × (Json → Prop))}
    {fields : List (String × Json)} :
    IsRecord asked (object fields) ↔
      ∀ field ∈ asked, ∃ given, lastField? fields field.1 = some given ∧ field.2 given :=
  ⟨fun | .object h => h, .object⟩

theorem isRecord_array_iff {asked : List (String × (Json → Prop))} {items : List Json} :
    IsRecord asked (array items) ↔ List.Forall₂ (fun given field => field.2 given) items asked :=
  ⟨fun | .array h => h, .array⟩

/-- Where no name comes twice, an object is such a record if it has the fields among others. -/
theorem isRecord_of_subset {asked : List (String × (Json → Prop))}
    {fields written : List (String × Json)} (hnames : (fields.map Prod.fst).Nodup)
    (hwritten : ∀ field ∈ asked, ∃ given, (field.1, given) ∈ written ∧ field.2 given)
    (hfields : written ⊆ fields) : IsRecord asked (object fields) := by
  refine .object fun field hfield => ?_
  obtain ⟨given, hmem, hgiven⟩ := hwritten field hfield
  exact ⟨given, lastField?_of_mem hnames (hfields hmem), hgiven⟩

/-- The value of a field: under its name in an object, at its place in an array. -/
def recordField? (name : String) (place : Nat) : Json → Option Json
  | object fields => lastField? fields name
  | array items => items[place]?
  | _ => none

/-- The value can hold the fields of a record, and an array holds no more than so many. -/
def HoldsFields (count : Nat) : Json → Prop
  | object _ => True
  | array items => items.length ≤ count
  | _ => False

/-- Items stand in their places, one for each field. -/
theorem forall₂_iff_zipIdx {α β : Type} {R : α → β → Prop} {items : List α} {asked : List β} :
    List.Forall₂ R items asked ↔
      items.length ≤ asked.length ∧
        ∀ field ∈ asked.zipIdx, ∃ given, items[field.2]? = some given ∧ R given field.1 := by
  induction asked generalizing items with
  | nil => cases items <;> simp
  | cons first asked ih =>
    rw [List.zipIdx_cons', List.forall_mem_cons, List.forall_mem_map]
    cases items with
    | nil => simp
    | cons item items =>
      rw [List.forall₂_cons, ih]
      simp [and_left_comm]

/-- Objects and arrays alike: each field is found under its name or at its place. -/
theorem isRecord_iff {asked : List (String × (Json → Prop))} {value : Json} :
    IsRecord asked value ↔
      value.HoldsFields asked.length ∧
        ∀ field ∈ asked.zipIdx, ∃ given,
          value.recordField? field.1.1 field.2 = some given ∧ field.1.2 given := by
  cases value with
  | object fields =>
    constructor
    · rintro ⟨h⟩
      exact ⟨trivial, fun field hfield => h field.1 (List.fst_mem_of_mem_zipIdx hfield)⟩
    · rintro ⟨-, h⟩
      refine .object fun field hfield => ?_
      obtain ⟨place, hplace⟩ := List.mem_iff_getElem?.mp hfield
      exact h (field, place) (List.mem_zipIdx_iff_getElem?.mpr hplace)
  | array items =>
    constructor
    · rintro (_ | h)
      exact forall₂_iff_zipIdx.mp h
    · exact fun h => .array (forall₂_iff_zipIdx.mpr h)
  | null | boolean | number | string => exact ⟨nofun, fun h => h.1.elim⟩

theorem optional_eq_ok_iff {α : Type} {fields : List (String × Json)} {name : String}
    {content : Json → Except Mismatch α} {found : α} :
    optional fields name content = .ok (some found) ↔
      ∃ given, lastField? fields name = some given ∧ content given = .ok found := by
  rw [optional]
  cases lastField? fields name with
  | none => simp
  | some given => simp [map_eq_ok_iff]

theorem element_eq_ok_iff {α : Type} {items : List Json} {index : Nat} {expected : String}
    {content : Json → Except Mismatch α} {found : α} :
    element items index expected content = .ok found ↔
      ∃ given, items[index]? = some given ∧ content given = .ok found := by
  rw [element]
  cases items[index]? <;> simp

theorem noFurther_eq_ok_iff {items : List Json} {count : Nat} {done : Unit} :
    noFurther items count = .ok done ↔ items.length ≤ count := by
  rw [noFurther]
  split <;> simp_all

end Json
end ScriptReview
