import Mathlib.Data.List.Forall2
import ScriptReview.Schema.Mismatch

/-!
Records that are read step by step.

Reading stops at the first step that fails (`bind_eq_error_iff`), so that a record is read just if
each of its steps succeeds (`bind_eq_ok_iff`). A list is read just if each of its items is, and the results stand in
the order of the items (`mapM_eq_ok_iff_forall₂`).
-/

namespace ScriptReview

theorem bind_eq_ok_iff {ε α β : Type} {source : Except ε α} {f : α → Except ε β} {result : β} :
    source >>= f = .ok result ↔ ∃ value, source = .ok value ∧ f value = .ok result := by
  cases source with
  | error cause => exact ⟨nofun, nofun⟩
  | ok value =>
    constructor
    · exact fun h => ⟨value, rfl, h⟩
    · rintro ⟨_, hvalue, hresult⟩
      cases hvalue
      exact hresult

theorem bind_eq_error_iff {ε α β : Type} {source : Except ε α} {f : α → Except ε β} {cause : ε} :
    source >>= f = .error cause ↔
      source = .error cause ∨ ∃ value, source = .ok value ∧ f value = .error cause := by
  cases source <;> simp [bind, Except.bind]

theorem map_eq_ok_iff {ε α β : Type} {source : Except ε α} {f : α → β} {result : β} :
    source.map f = .ok result ↔ ∃ value, source = .ok value ∧ f value = result := by
  cases source <;> simp [Except.map]

theorem mapError_eq_error_iff {ε δ α : Type} {source : Except ε α} {f : ε → δ} {cause : δ} :
    source.mapError f = .error cause ↔ ∃ found, source = .error found ∧ f found = cause := by
  cases source <;> simp [Except.mapError]

theorem mapM_eq_ok_iff_forall₂ {ε α β : Type} {f : α → Except ε β} {source : List α}
    {result : List β} :
    source.mapM f = .ok result ↔ List.Forall₂ (fun a b => f a = .ok b) source result := by
  induction source generalizing result with
  | nil =>
    rw [List.mapM_nil]
    cases result <;> simp [pure, Except.pure]
  | cons a source ih =>
    rw [List.mapM_cons, bind_eq_ok_iff]
    constructor
    · rintro ⟨b, hb, hrest⟩
      obtain ⟨later, hlater, hresult⟩ := bind_eq_ok_iff.mp hrest
      cases hresult
      exact .cons hb (ih.mp hlater)
    · rintro (_ | ⟨hb, hlater⟩)
      exact ⟨_, hb, bind_eq_ok_iff.mpr ⟨_, ih.mpr hlater, rfl⟩⟩

namespace Schema

theorem variant_eq_ok_iff {α : Type} {values : List α} {nameOf : α → String}
    (hnames : (values.map nameOf).Nodup) {name : String} {found : α} (hfound : found ∈ values) :
    variant values nameOf name = .ok found ↔ name = nameOf found := by
  have hfind : variant values nameOf name = .ok found ↔
      values.find? (fun value => nameOf value == name) = some found := by
    rw [variant]
    cases values.find? fun value => nameOf value == name <;> simp
  rw [hfind]
  constructor
  · intro h
    have hname := List.find?_some h
    exact (beq_iff_eq.mp hname).symm
  · rintro rfl
    obtain ⟨front, back, rfl⟩ := List.append_of_mem hfound
    rw [List.map_append, List.map_cons, List.nodup_append] at hnames
    refine List.find?_eq_some_iff_append.mpr ⟨beq_self_eq_true _, front, back, rfl, ?_⟩
    intro other hother
    have hne := hnames.2.2 (nameOf other) (List.mem_map_of_mem hother) (nameOf found)
      List.mem_cons_self
    simpa using hne

theorem required_eq_ok_iff {α : Type} {name : String} {given : Option α} {found : α} :
    required name given = .ok found ↔ given = some found := by
  cases given <;> simp [required]

end Schema
end ScriptReview
