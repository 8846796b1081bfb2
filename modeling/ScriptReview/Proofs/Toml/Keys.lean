import ScriptReview.Proofs.Toml.Distinct

/-!
Keys of a document that is read.

No table of a document has one key twice, whether it is written with headers, with dotted keys or
in braces (`distinct_of_parse?`). Values are followed from the scalars up, by the depth of nesting,
and then the lines of the document are put together.
-/

namespace ScriptReview
namespace Toml

/-! ## Values -/

section Readers

open Text

theorem distinct_of_integerValue? {negative : Bool} {magnitude : Nat} {value : Toml}
    (h : integerValue? negative magnitude = some value) : value.Distinct := by
  obtain ⟨-, hvalue⟩ := Option.ite_none_right_eq_some.mp h
  cases hvalue
  exact .integer _

theorem distinct_of_floatValue? {negative : Bool} {digits : Nat} {exponent : Int} {value : Toml}
    (h : floatValue? negative digits exponent = some value) : value.Distinct := by
  rw [floatValue?] at h
  split at h
  · exact absurd h nofun
  · cases h
    exact .float _

theorem of_map_eq_some {α β : Type} {P : β → Prop} {f : α → β × List Char} {source : Option α}
    (hf : ∀ a, P (f a).1) {found : β} {rest : List Char} (h : source.map f = some (found, rest)) :
    P found := by
  obtain ⟨a, -, ha⟩ := Option.map_eq_some_iff.mp h
  have hfound := hf a
  rw [ha] at hfound
  exact hfound

/-- Whatever the reader hands out has the property. -/
def Yields {α : Type} (reader : Reader α) (P : α → Prop) : Prop :=
  ∀ text found rest, reader text = some (found, rest) → P found

theorem yields_basedInteger (base : Nat) : Yields (basedInteger base) Distinct := by
  intro text found rest h
  obtain ⟨_, -, hrest⟩ := Option.bind_eq_some_iff.mp h
  obtain ⟨value, hvalue, hresult⟩ := Option.bind_eq_some_iff.mp hrest
  cases hresult
  exact distinct_of_integerValue? hvalue

theorem yields_decimal (negative : Bool) : Yields (decimal negative) Distinct := by
  intro text found rest h
  obtain ⟨whole, -, hplaces⟩ := Option.bind_eq_some_iff.mp h
  obtain ⟨places, -, hpower⟩ := Option.bind_eq_some_iff.mp hplaces
  obtain ⟨exponent, -, hvalue⟩ := Option.bind_eq_some_iff.mp hpower
  dsimp only at hvalue
  split at hvalue
  · obtain ⟨value, hinteger, hresult⟩ := Option.bind_eq_some_iff.mp hvalue
    cases hresult
    exact distinct_of_integerValue? hinteger
  · obtain ⟨value, hfloat, hresult⟩ := Option.bind_eq_some_iff.mp hvalue
    cases hresult
    exact distinct_of_floatValue? hfloat

theorem yields_signedNumber (negative : Bool) : Yields (signedNumber negative) Distinct := by
  intro text found rest h
  rw [signedNumber.eq_def] at h
  split at h
  · exact of_map_eq_some (fun _ => .float _) h
  · exact of_map_eq_some (fun _ => .float _) h
  · exact yields_decimal negative _ found rest h

theorem yields_number : Yields number Distinct := by
  intro text found rest h
  rw [number.eq_def] at h
  split at h
  · exact yields_basedInteger 16 _ found rest h
  · exact yields_basedInteger 8 _ found rest h
  · exact yields_basedInteger 2 _ found rest h
  · exact yields_signedNumber _ _ found rest h

theorem yields_scalar : Yields scalar Distinct := by
  intro text found rest h
  rw [scalar.eq_def] at h
  split at h
  · exact of_map_eq_some (fun _ => .string _) h
  · exact of_map_eq_some (fun _ => .string _) h
  · exact of_map_eq_some (fun _ => .boolean _) h
  · exact of_map_eq_some (fun _ => .boolean _) h
  · rw [numberOrDate] at h
    split at h
    · exact of_map_eq_some (fun _ => .dateTime _) h
    · exact yields_number _ found rest h

theorem yields_separated {α : Type} {item : Reader α} {P : α → Prop} (h : Yields item P)
    (separator : Reader Unit) (bound : Nat) :
    Yields (Reader.separated item separator bound) fun found => ∀ value ∈ found, P value := by
  induction bound with
  | zero => exact fun _ _ _ hnone => absurd hnone nofun
  | succ bound ih =>
    intro text found rest hfound
    obtain ⟨first, hfirst, hlater⟩ := Option.bind_eq_some_iff.mp hfound
    dsimp only at hlater
    split at hlater
    · cases hlater
      exact List.forall_mem_singleton.mpr (h text first.1 first.2 hfirst)
    · obtain ⟨more, hmore, hresult⟩ := Option.bind_eq_some_iff.mp hlater
      cases hresult
      exact List.forall_mem_cons.mpr ⟨h text first.1 first.2 hfirst, ih _ more.1 more.2 hmore⟩

theorem yields_arrayItems {item : Reader Toml} {P : Toml → Prop} (h : Yields item P)
    (bound : Nat) :
    Yields (arrayItems item bound) fun found => ∀ value ∈ found, P value := by
  induction bound with
  | zero => exact fun _ _ _ hnone => absurd hnone nofun
  | succ bound ih =>
    intro text found rest hfound
    obtain ⟨start, -, hitems⟩ := Option.bind_eq_some_iff.mp hfound
    split at hitems
    · cases hitems
      exact nofun
    · obtain ⟨first, hfirst, hlater⟩ := Option.bind_eq_some_iff.mp hitems
      obtain ⟨next, -, hend⟩ := Option.bind_eq_some_iff.mp hlater
      have hvalue := h _ first.1 first.2 hfirst
      dsimp only at hend
      split at hend
      · obtain ⟨more, hmore, hresult⟩ := Option.bind_eq_some_iff.mp hend
        cases hresult
        exact List.forall_mem_cons.mpr ⟨hvalue, ih _ more.1 more.2 hmore⟩
      · cases hend
        exact List.forall_mem_singleton.mpr hvalue
      · exact absurd hend nofun

theorem yields_entry {item : Reader Toml} {P : Toml → Prop} (h : Yields item P) :
    Yields (entry item) fun found => P found.value := by
  intro text found rest hfound
  obtain ⟨key, -, hequals⟩ := Option.bind_eq_some_iff.mp hfound
  obtain ⟨_, -, hitem⟩ := Option.bind_eq_some_iff.mp hequals
  obtain ⟨value, hvalue, hresult⟩ := Option.bind_eq_some_iff.mp hitem
  cases hresult
  exact h _ value.1 value.2 hvalue

theorem yields_inlineTable {item : Reader Toml} (h : Yields item Distinct) :
    Yields (inlineTable item) Distinct := by
  intro text found rest hfound
  rw [inlineTable] at hfound
  split at hfound
  · cases hfound
    exact Entries.distinct_nil
  · obtain ⟨entries, hentries, hclose⟩ := Option.bind_eq_some_iff.mp hfound
    obtain ⟨_, -, hinsert⟩ := Option.bind_eq_some_iff.mp hclose
    obtain ⟨built, hbuilt, hresult⟩ := Option.bind_eq_some_iff.mp hinsert
    cases hresult
    have hvalues := yields_separated (yields_entry h) _ _ _ entries.1 entries.2 hentries
    exact Entries.distinct_nil.insertAll hvalues hbuilt

theorem yields_value (depth : Nat) : Yields (value depth) Distinct := by
  induction depth with
  | zero => exact yields_scalar
  | succ depth ih =>
    intro text found rest h
    rw [value.eq_def] at h
    dsimp only at h
    split at h
    · obtain ⟨items, hitems, hresult⟩ := Option.map_eq_some_iff.mp h
      cases hresult
      exact .array (yields_arrayItems ih _ _ items.1 items.2 hitems)
    · exact yields_inlineTable ih _ found rest h
    · exact yields_scalar _ found rest h

end Readers

/-! ## Documents -/

theorem yields_header : Yields header fun found => lineValues [found] = [] := by
  intro text found rest h
  rw [header.eq_def] at h
  split at h
  · obtain ⟨key, -, hclose⟩ := Option.bind_eq_some_iff.mp h
    obtain ⟨_, -, hresult⟩ := Option.bind_eq_some_iff.mp hclose
    cases hresult
    rfl
  · obtain ⟨key, -, hclose⟩ := Option.bind_eq_some_iff.mp h
    obtain ⟨_, -, hresult⟩ := Option.bind_eq_some_iff.mp hclose
    cases hresult
    rfl

theorem distinct_of_line {text rest : List Char} {found : Option Line}
    (h : line text = some (found, rest)) : ∀ value ∈ lineValues found.toList, value.Distinct := by
  rw [line] at h
  split at h
  · obtain ⟨header, hheader, hresult⟩ := Option.map_eq_some_iff.mp h
    cases hresult
    rw [Option.toList_some, yields_header _ header.1 header.2 hheader]
    exact nofun
  · split at h
    · cases h
      exact nofun
    · obtain ⟨entry, hentry, hresult⟩ := Option.map_eq_some_iff.mp h
      cases hresult
      exact List.forall_mem_singleton.mpr (yields_entry (yields_value _) _ entry.1 entry.2 hentry)

theorem lineValues_append (front back : List Line) :
    lineValues (front ++ back) = lineValues front ++ lineValues back :=
  List.filterMap_append

theorem distinct_of_linesUpTo {bound : Nat} {text : List Char} {lines : List Line}
    (h : linesUpTo bound text = some lines) : ∀ value ∈ lineValues lines, value.Distinct := by
  induction bound generalizing text lines with
  | zero =>
    cases text with
    | nil =>
      cases h
      exact nofun
    | cons c text => exact absurd h nofun
  | succ bound ih =>
    cases text with
    | nil =>
      cases h
      exact nofun
    | cons c text =>
      obtain ⟨found, hfound, hend⟩ := Option.bind_eq_some_iff.mp h
      obtain ⟨_, -, hmore⟩ := Option.bind_eq_some_iff.mp hend
      obtain ⟨more, hlater, hresult⟩ := Option.bind_eq_some_iff.mp hmore
      cases hresult
      rw [lineValues_append]
      exact List.forall_mem_append.mpr ⟨distinct_of_line hfound, ih hlater⟩

theorem distinct_of_parse? {text : String} {entries : List (String × Toml)}
    (h : parse? text = some entries) : (table entries).Distinct := by
  obtain ⟨lines, hlines, hassembled⟩ := Option.bind_eq_some_iff.mp h
  exact distinct_of_assemble (distinct_of_linesUpTo hlines) hassembled

end Toml
end ScriptReview
