/-!
Entries under different keys.

Where no two entries have one key, looking a key up finds the one entry that is there
(`lookup_eq_some_iff_mem`), and it does not matter in which order the entries stand.
-/

namespace ScriptReview

section Entries

variable {α β : Type} [DecidableEq α] {entries : List (α × β)}

theorem lookup_cons_eq_ite (first : α × β) (entries : List (α × β)) (key : α) :
    (first :: entries).lookup key = if key = first.1 then some first.2 else entries.lookup key := by
  rw [List.lookup_cons]
  by_cases hkey : key = first.1
  · rw [beq_iff_eq.mpr hkey, if_pos hkey]
  · rw [beq_false_of_ne hkey, if_neg hkey]

/-- Looking a key up in entries that are made from a list picks out of the list. -/
theorem lookup_map_eq_findSome? {ι γ : Type} {source : List ι} {keyOf : ι → α} {valueOf : ι → β}
    {pick : ι → Option γ} {write : γ → β} {key : α}
    (h : ∀ a, (if key = keyOf a then some (valueOf a) else none) = (pick a).map write) :
    (source.map fun a => (keyOf a, valueOf a)).lookup key = (source.findSome? pick).map write := by
  rw [List.lookup_eq_findSome?, List.findSome?_map, List.map_findSome?]
  refine congrArg (List.findSome? · source) (funext fun a => ?_)
  rw [Function.comp_apply, Function.comp_apply, ← h]
  simp only [beq_iff_eq]

theorem lookup_eq_none_iff_notMem {key : α} :
    entries.lookup key = none ↔ key ∉ entries.map Prod.fst := by
  induction entries with
  | nil => simp
  | cons first entries ih =>
    rw [lookup_cons_eq_ite, List.map_cons, List.mem_cons]
    by_cases hkey : key = first.1
    · simp [hkey]
    · rw [if_neg hkey, ih, or_iff_right hkey]

theorem lookup_eq_some_iff_mem (h : (entries.map Prod.fst).Nodup) {key : α} {value : β} :
    entries.lookup key = some value ↔ (key, value) ∈ entries := by
  induction entries with
  | nil => simp
  | cons first entries ih =>
    obtain ⟨firstKey, firstValue⟩ := first
    rw [List.map_cons, List.nodup_cons] at h
    rw [lookup_cons_eq_ite, List.mem_cons, Prod.mk.injEq]
    by_cases hkey : key = firstKey
    · -- The key does not come again.
      have hlater : (key, value) ∉ entries := fun hmem =>
        h.1 (hkey ▸ List.mem_map.mpr ⟨(key, value), hmem, rfl⟩)
      simp [hkey ▸ hlater, hkey, eq_comm]
    · rw [if_neg hkey, ih h.2]
      simp [hkey]

end Entries
end ScriptReview
