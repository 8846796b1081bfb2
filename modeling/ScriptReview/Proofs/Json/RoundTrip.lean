import ScriptReview.Proofs.Json.Scalars

/-!
Reading written JSON.

A value that is not nested deeper than the reader goes is read back as it was written
(`parse?_render`), and what is written holds no line feed (`newline_notMem_print`). Arrays and
objects are the same kind of list to a reader: parts with commas between them and a bracket at the
end (`separated_intercalate`).
-/

namespace ScriptReview
namespace Json

open Text

/-! ## Lists -/

theorem skipSpace_cons {c : Char} (h : isSpace c = false) (text : List Char) :
    skipSpace (c :: text) = c :: text :=
  List.dropWhile_cons_of_neg (by simp [h])

theorem printItems_eq_intercalate (items : List Json) :
    printItems items = [','].intercalate (items.map print) := by
  induction items with
  | nil => rfl
  | cons item items ih =>
    cases items with
    | nil => simp [printItems]
    | cons second more => simp [printItems, ih, List.intercalate_cons_cons]

/-- A field as it stands in an object. -/
def printField (field : String × Json) : List Char :=
  printString field.1 ++ ':' :: print field.2

theorem printFields_eq_intercalate (fields : List (String × Json)) :
    printFields fields = [','].intercalate (fields.map printField) := by
  induction fields with
  | nil => rfl
  | cons field fields ih =>
    cases fields with
    | nil => simp [printFields, printField]
    | cons second more => simp [printFields, printField, ih, List.intercalate_cons_cons]

/-- The text of a list with its closing bracket has a character for each part. -/
theorem length_le_length_intercalate {α : Type} (write : α → List Char) (values : List α)
    (close : Char) (rest : List Char) :
    values.length ≤ ([','].intercalate (values.map write) ++ close :: rest).length := by
  induction values with
  | nil => exact Nat.zero_le _
  | cons value values ih =>
    cases values with
    | nil => exact List.length_append ▸ Nat.le_trans (Nat.le_add_left 1 _) (Nat.le_add_left _ _)
    | cons second more =>
      rw [List.map_cons, List.map_cons, List.intercalate_cons_cons, List.append_assoc,
        List.append_assoc, List.length_append, List.singleton_append, List.length_cons,
        List.length_cons, ← List.map_cons (f := write)]
      exact Nat.le_trans (Nat.succ_le_succ ih) (Nat.le_add_left _ _)

section Separated

variable {α : Type} {item : Reader α} {write : α → List Char} (close : Char)

/-- Parts that are read one by one are read as a list up to the closing bracket. -/
theorem separated_intercalate (hspace : isSpace close = false) (hcomma : close ≠ ',')
    (hends : ∀ rest, EndsNumber (close :: rest)) {values : List α} (hvalues : values ≠ [])
    (hitem : ∀ value ∈ values, ∀ rest, EndsNumber rest →
      item (write value ++ rest) = some (value, rest))
    {bound : Nat} (hbound : values.length ≤ bound) (rest : List Char) :
    Reader.separated item comma bound
        ([','].intercalate (values.map write) ++ close :: rest) =
      some (values, close :: rest) := by
  induction values generalizing bound with
  | nil => exact absurd rfl hvalues
  | cons value values ih =>
    obtain ⟨bound, rfl⟩ : ∃ smaller, bound = smaller + 1 :=
      ⟨bound - 1, by rw [List.length_cons] at hbound; omega⟩
    have hfirst := hitem value List.mem_cons_self
    cases values with
    | nil =>
      have hclose : comma (close :: rest) = none := by
        rw [comma, skipSpace_cons hspace, Reader.char, if_neg hcomma]
      rw [List.map_singleton, List.intercalate_singleton, Reader.separated,
        hfirst _ (hends rest)]
      simp only [Option.bind_eq_bind, Option.bind_some, hclose]
    | cons second more =>
      have hmore := ih (List.cons_ne_nil second more)
        (fun value hvalue => hitem value (List.mem_cons_of_mem _ hvalue))
        (Nat.le_of_succ_le_succ hbound)
      have hnext : ∀ text, comma (',' :: text) = some ((), text) := fun _ => rfl
      rw [List.map_cons, List.map_cons, List.intercalate_cons_cons, List.append_assoc,
        List.append_assoc, List.singleton_append, Reader.separated,
        hfirst _ (endsNumber_cons (by decide) (by decide) (by decide) (by decide) _)]
      rw [List.map_cons] at hmore
      simp only [Option.bind_eq_bind, Option.bind_some, hnext, hmore]

end Separated

/-! ## Values -/

/-- Arrays and objects are nested at most so deep. -/
inductive NestedWithin : Nat → Json → Prop where
  | null {depth : Nat} : NestedWithin depth null
  | boolean {depth : Nat} (value : Bool) : NestedWithin depth (boolean value)
  | number {depth : Nat} (value : Number) : NestedWithin depth (number value)
  | string {depth : Nat} (value : String) : NestedWithin depth (string value)
  | array {depth : Nat} {items : List Json} (h : ∀ item ∈ items, NestedWithin depth item) :
    NestedWithin (depth + 1) (array items)
  | object {depth : Nat} {fields : List (String × Json)}
    (h : ∀ field ∈ fields, NestedWithin depth field.2) : NestedWithin (depth + 1) (object fields)

/-- No written value begins like space or like the end of an array. -/
theorem exists_print_eq_cons (v : Json) :
    ∃ c text, print v = c :: text ∧ isSpace c = false ∧ c ≠ ']' := by
  cases v with
  | null => exact ⟨'n', _, rfl, by decide, by decide⟩
  | boolean value =>
    cases value with
    | true => exact ⟨'t', _, rfl, by decide, by decide⟩
    | false => exact ⟨'f', _, rfl, by decide, by decide⟩
  | number value =>
    obtain ⟨c, text, hprint, hc⟩ := exists_printNumber_eq_cons value
    have hspace : isSpace c = false := by
      simp [isSpace, ne_of_beginsNumber hc (d := ' ') (by decide),
        ne_of_beginsNumber hc (d := '\t') (by decide),
        ne_of_beginsNumber hc (d := '\n') (by decide),
        ne_of_beginsNumber hc (d := '\r') (by decide)]
    exact ⟨c, text, by rw [print, hprint], hspace, ne_of_beginsNumber hc (by decide)⟩
  | string value => exact ⟨'"', _, rfl, by decide, by decide⟩
  | array items => exact ⟨'[', _, by rw [print], by decide, by decide⟩
  | object fields => exact ⟨'\x7b', _, by rw [print], by decide, by decide⟩

/-- A value is a scalar unless it begins with a bracket. -/
theorem value_eq_scalar {c : Char} (hspace : isSpace c = false) (hbracket : c ≠ '[')
    (hbrace : c ≠ '\x7b') (depth : Nat) (text : List Char) :
    value depth (c :: text) = scalar (c :: text) := by
  cases depth with
  | zero => rw [value, skipSpace_cons hspace]
  | succ depth =>
    rw [value, skipSpace_cons hspace]
    split
    · next h => exact absurd (List.cons.inj h).1 hbracket
    · next h => exact absurd (List.cons.inj h).1 hbrace
    · rfl

theorem scalar_printString (text : String) (rest : List Char) :
    scalar (printString text ++ rest) = some (string text, rest) := by
  show Option.map _ (string? (printString text ++ rest)) = _
  rw [string?_printString]
  rfl

theorem value_printNumber (depth : Nat) (number : Number) {rest : List Char}
    (hrest : EndsNumber rest) :
    value depth (printNumber number ++ rest) = some (Json.number number, rest) := by
  have hread := number?_printNumber number hrest
  obtain ⟨c, text, hprint, hc⟩ := exists_printNumber_eq_cons number
  obtain ⟨c', text', hcons, hspace, -⟩ := exists_print_eq_cons (Json.number number)
  rw [print, hprint, List.cons.injEq] at hcons
  obtain ⟨rfl, rfl⟩ := hcons
  rw [hprint, List.cons_append] at hread ⊢
  have hletter : ∀ d, beginsNumber d = false → ∀ more, c :: (text ++ rest) ≠ d :: more :=
    fun d hd more h => ne_of_beginsNumber hc hd (List.cons.inj h).1
  rw [value_eq_scalar hspace (ne_of_beginsNumber hc (by decide))
      (ne_of_beginsNumber hc (by decide)),
    scalar.eq_5 _ (hletter 'n' (by decide)) (hletter 't' (by decide)) (hletter 'f' (by decide))
      (hletter '"' (by decide)), hread]
  rfl

/-- The text of a list begins with that of its first value. -/
theorem exists_intercalate_eq_append (part : List Char) (parts : List (List Char)) :
    ∃ text, [','].intercalate (part :: parts) = part ++ text := by
  cases parts with
  | nil => exact ⟨[], by rw [List.intercalate_singleton, List.append_nil]⟩
  | cons second more => exact ⟨_, by rw [List.intercalate_cons_cons, List.append_assoc]⟩

theorem items_cons {item : Reader Json} {c : Char} {text rest : List Char} {found : List Json}
    (hspace : isSpace c = false) (hclose : c ≠ ']')
    (h : Reader.separated item comma (c :: text).length (c :: text) = some (found, ']' :: rest)) :
    items item (c :: text) = some (array found, rest) := by
  rw [items, skipSpace_cons hspace]
  split
  · next hcons => exact absurd (List.cons.inj hcons).1 hclose
  · rw [h]
    rfl

theorem items_printItems {item : Reader Json} {values : List Json}
    (hitem : ∀ value ∈ values, ∀ rest, EndsNumber rest →
      item (print value ++ rest) = some (value, rest)) (rest : List Char) :
    items item (printItems values ++ ']' :: rest) = some (array values, rest) := by
  rw [printItems_eq_intercalate]
  cases values with
  | nil => rfl
  | cons first more =>
    have hread := separated_intercalate ']' (by decide) (by decide)
      (endsNumber_cons (by decide) (by decide) (by decide) (by decide))
      (List.cons_ne_nil first more) hitem (length_le_length_intercalate print _ ']' rest) rest
    obtain ⟨c, text, hprint, hspace, hclose⟩ := exists_print_eq_cons first
    obtain ⟨more', htext⟩ := exists_intercalate_eq_append (print first) (more.map print)
    rw [List.map_cons, htext, hprint, List.cons_append, List.cons_append] at hread ⊢
    exact items_cons hspace hclose hread

theorem field_printField {item : Reader Json} {entry : String × Json} {rest : List Char}
    (h : item (print entry.2 ++ rest) = some (entry.2, rest)) :
    field item (printField entry ++ rest) = some (entry, rest) := by
  have hspace : skipSpace (printString entry.1 ++ ':' :: (print entry.2 ++ rest)) =
      printString entry.1 ++ ':' :: (print entry.2 ++ rest) := skipSpace_cons (by decide) _
  rw [printField, List.append_assoc, List.cons_append, field, hspace, string?_printString]
  simp only [Option.bind_eq_bind, Option.bind_some]
  rw [skipSpace_cons (by decide), Reader.char, if_pos rfl]
  simp only [Option.bind_some, h]

theorem fields_cons {item : Reader Json} {c : Char} {text rest : List Char}
    {found : List (String × Json)} (hspace : isSpace c = false) (hclose : c ≠ '\x7d')
    (h : Reader.separated (field item) comma (c :: text).length (c :: text) =
      some (found, '\x7d' :: rest)) :
    fields item (c :: text) = some (object found, rest) := by
  rw [fields, skipSpace_cons hspace]
  split
  · next hcons => exact absurd (List.cons.inj hcons).1 hclose
  · rw [h]
    rfl

theorem fields_printFields {item : Reader Json} {entries : List (String × Json)}
    (hitem : ∀ entry ∈ entries, ∀ rest, EndsNumber rest →
      item (print entry.2 ++ rest) = some (entry.2, rest)) (rest : List Char) :
    fields item (printFields entries ++ '\x7d' :: rest) = some (object entries, rest) := by
  rw [printFields_eq_intercalate]
  cases entries with
  | nil => rfl
  | cons first more =>
    have hread := separated_intercalate '\x7d' (by decide) (by decide)
      (endsNumber_cons (by decide) (by decide) (by decide) (by decide))
      (List.cons_ne_nil first more)
      (fun entry hentry rest hrest => field_printField (hitem entry hentry rest hrest))
      (length_le_length_intercalate printField _ '\x7d' rest) rest
    obtain ⟨more', htext⟩ := exists_intercalate_eq_append (printField first) (more.map printField)
    rw [List.map_cons, htext] at hread ⊢
    exact fields_cons (c := '"') (by decide) (by decide) hread

theorem value_print {depth : Nat} {v : Json} (h : NestedWithin depth v) {rest : List Char}
    (hrest : EndsNumber rest) : value depth (print v ++ rest) = some (v, rest) := by
  induction h generalizing rest with
  | @null depth => exact value_eq_scalar (by decide) (by decide) (by decide) depth _
  | @boolean depth value =>
    cases value with
    | true => exact value_eq_scalar (by decide) (by decide) (by decide) depth _
    | false => exact value_eq_scalar (by decide) (by decide) (by decide) depth _
  | @number depth number => exact value_printNumber depth number hrest
  | @string depth text =>
    rw [print]
    exact (value_eq_scalar (by decide) (by decide) (by decide) depth _).trans
      (scalar_printString text rest)
  | @array depth values _ ih =>
    have hread : items (value depth) (printItems values ++ ']' :: rest) =
        some (array values, rest) :=
      items_printItems (fun v hv rest hrest => ih v hv hrest) rest
    rw [print, List.cons_append, List.append_assoc, value, skipSpace_cons (by decide)]
    exact hread
  | @object depth entries _ ih =>
    have hread : fields (value depth) (printFields entries ++ '\x7d' :: rest) =
        some (object entries, rest) :=
      fields_printFields (fun entry hentry rest hrest => ih entry hentry hrest) rest
    rw [print, List.cons_append, List.append_assoc, value, skipSpace_cons (by decide)]
    exact hread

theorem parse?_render {v : Json} (h : NestedWithin maxDepth v) : parse? v.render = some v := by
  have hread := value_print h endsNumber_nil
  rw [List.append_nil] at hread
  rw [parse?, render, String.toList_ofList, hread]
  rfl

/-! ## Lines -/

mutual

theorem newline_notMem_print (v : Json) : '\n' ∉ print v := by
  cases v with
  | null => decide
  | boolean value => cases value <;> decide
  | number value =>
    rw [print]
    exact newline_notMem_printNumber value
  | string text =>
    rw [print]
    exact newline_notMem_printString text
  | array items => simp [print, newline_notMem_printItems items]
  | object fields => simp [print, newline_notMem_printFields fields]

theorem newline_notMem_printItems (items : List Json) : '\n' ∉ printItems items := by
  match items with
  | [] => simp [printItems]
  | [last] =>
    rw [printItems]
    exact newline_notMem_print last
  | item :: second :: more =>
    simp [printItems, newline_notMem_print item, newline_notMem_printItems (second :: more)]

theorem newline_notMem_printFields (fields : List (String × Json)) :
    '\n' ∉ printFields fields := by
  match fields with
  | [] => simp [printFields]
  | [(name, value)] =>
    simp [printFields, newline_notMem_printString name, newline_notMem_print value]
  | (name, value) :: second :: more =>
    simp [printFields, newline_notMem_printString name, newline_notMem_print value,
      newline_notMem_printFields (second :: more)]

end

end Json
end ScriptReview
