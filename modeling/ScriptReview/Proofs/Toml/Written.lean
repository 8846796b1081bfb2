import Mathlib.Data.List.Forall2
import ScriptReview.Proofs.Toml.Distinct
import ScriptReview.Proofs.Toml.Scalars

/-!
Reading a written document back.

A document of headers and plain values on lines of their own is read back as it is written, in
whatever order its sections and its entries stand (`parse?_of_writesSection`), as long as no section
comes twice and no key twice in a section.
-/

namespace ScriptReview
namespace Toml

open Text

/-- A line that gives a key a plain value. -/
inductive WritesEntry : List Char → String × Toml → Prop
  | intro {key : List Char} {name : String} {value : List Char} {found : Toml} :
      WritesKey key name → WritesValue value found →
        WritesEntry (key ++ ' ' :: '=' :: ' ' :: value) (name, found)

/-- The lines of a section: its header and its entries. -/
inductive WritesSection : List (List Char) → String × List (String × Toml) → Prop
  | intro {key : List Char} {name : String} {lines : List (List Char)}
      {entries : List (String × Toml)} :
      WritesKey key name → List.Forall₂ WritesEntry lines entries →
        WritesSection (('[' :: (key ++ [']'])) :: lines) (name, entries)

/-! ## Lines -/

/-- A character that a key can begin with. -/
def beginsKey (c : Char) : Bool := isKeyChar c || c == '"'

theorem ne_of_beginsKey {c d : Char} (hc : beginsKey c = true) (hd : beginsKey d = false) :
    c ≠ d := by
  rintro rfl
  rw [hc] at hd
  cases hd

theorem WritesKey.exists_eq_cons {text : List Char} {name : String} (h : WritesKey text name) :
    ∃ c more, text = c :: more ∧ beginsKey c = true := by
  cases h with
  | bare hne hname =>
    obtain ⟨c, more, hcons⟩ := List.exists_cons_of_ne_nil hne
    have hc := hname c (hcons ▸ List.mem_cons_self)
    exact ⟨c, more, hcons, by rw [beginsKey, hc, Bool.true_or]⟩
  | quoted hname => exact ⟨'"', _, rfl, rfl⟩

theorem skipSpace_of_beginsKey {c : Char} (h : beginsKey c = true) (rest : List Char) :
    skipSpace (c :: rest) = c :: rest :=
  skipSpace_cons (isSpace_of_inClass beginsKey rfl rfl h) rest

theorem lineEnd_of_beginsKey {c : Char} (h : beginsKey c = true) (rest : List Char) :
    lineEnd (c :: rest) = none := by
  have hcomment : skipComment (c :: rest) = c :: rest := by
    refine skipComment.eq_2 _ fun more heq => ?_
    exact ne_of_beginsKey h rfl (List.cons.inj heq).1
  rw [lineEnd, skipSpace_of_beginsKey h, hcomment]
  dsimp only
  refine newline.eq_3 _ (fun more heq => ?_) fun more heq => ?_
  · exact ne_of_beginsKey h rfl (List.cons.inj heq).1
  · exact ne_of_beginsKey h rfl (List.cons.inj heq).1

/-- The text stands on a line of its own and says this. -/
def Says (text : List Char) (said : Line) : Prop :=
  ∀ rest, line (text ++ '\n' :: rest) = some (some said, '\n' :: rest)

theorem WritesEntry.says {text : List Char} {entry : String × Toml} (h : WritesEntry text entry) :
    Says text (.entry ⟨⟨[], entry.1⟩, entry.2⟩) := by
  intro rest
  obtain @⟨key, name, found, value, hkey, hvalue⟩ := h
  have hread : Toml.entry (Toml.value (nestingLimit - 1))
      (key ++ ' ' :: '=' :: ' ' :: (found ++ '\n' :: rest)) =
        some (⟨⟨[], name⟩, value⟩, '\n' :: rest) := by
    have hequals : ∀ more, Reader.char '=' ('=' :: more) = some ((), more) := fun more => rfl
    have hspace : skipSpace (' ' :: (found ++ '\n' :: rest)) = found ++ '\n' :: rest :=
      skipSpace_of_writesValue hvalue _
    rw [Toml.entry, key_of_writesKey_equals hkey, Option.bind_eq_bind, Option.bind_some]
    dsimp only
    rw [hequals, Option.bind_eq_bind, Option.bind_some]
    dsimp only
    rw [hspace, value_of_writesValue hvalue]
    rfl
  simp only [List.append_assoc, List.cons_append]
  obtain ⟨c, more, hcons, hc⟩ := hkey.exists_eq_cons
  rw [hcons, List.cons_append] at hread ⊢
  rw [line, skipSpace_of_beginsKey hc]
  split
  · exact absurd (List.cons.inj ‹_›).1 (ne_of_beginsKey hc rfl)
  · rw [lineEnd_of_beginsKey hc, hread]
    rfl

theorem WritesKey.says_header {key : List Char} {name : String} (h : WritesKey key name) :
    Says ('[' :: (key ++ [']'])) (.tableHeader ⟨[], name⟩) := by
  intro rest
  have hread := key_of_writesKey_bracket h ('\n' :: rest)
  have hheader : header (key ++ ']' :: '\n' :: rest) =
      some (.tableHeader ⟨[], name⟩, '\n' :: rest) := by
    obtain ⟨c, more, hcons, hc⟩ := h.exists_eq_cons
    rw [hcons, List.cons_append] at hread ⊢
    rw [header.eq_2 _ fun more heq => ne_of_beginsKey hc rfl (List.cons.inj heq).1, hread]
    rfl
  rw [List.cons_append, List.append_assoc, List.singleton_append, line, skipSpace_cons rfl]
  show Option.map _ (header (key ++ ']' :: '\n' :: rest)) = _
  rw [hheader]
  rfl

/-- The text stands on a line of its own and says this, if it says anything. -/
def Reads (text : List Char) (said : Option Line) : Prop :=
  ∀ rest, ∃ more, line (text ++ '\n' :: rest) = some (said, more) ∧ lineEnd more = some ((), rest)

theorem Says.reads {text : List Char} {said : Line} (h : Says text said) :
    Reads text (some said) :=
  fun rest => ⟨'\n' :: rest, h rest, rfl⟩

theorem linesUpTo_of_reads {texts : List (List Char)} {said : List (Option Line)}
    (h : List.Forall₂ Reads texts said) {bound : Nat} (hbound : texts.length ≤ bound) :
    linesUpTo bound (texts.flatMap (· ++ ['\n'])) = some (said.flatMap Option.toList) := by
  induction h generalizing bound with
  | nil => exact linesUpTo.eq_1 bound
  | @cons text first texts later hreads _ ih =>
    cases bound with
    | zero => exact absurd hbound (Nat.not_succ_le_zero _)
    | succ bound =>
      have hrest := ih (Nat.le_of_succ_le_succ hbound)
      obtain ⟨more, hline, hend⟩ := hreads (texts.flatMap (· ++ ['\n']))
      rw [List.flatMap_cons, List.append_assoc, List.singleton_append,
        linesUpTo.eq_3 _ _ (by simp), hline, Option.bind_eq_bind, Option.bind_some]
      dsimp only
      rw [hend, Option.bind_eq_bind, Option.bind_some]
      dsimp only
      rw [hrest]
      rfl

/-! ## Documents -/

theorem length_le_length_flatMap (texts : List (List Char)) :
    texts.length ≤ (texts.flatMap (· ++ ['\n'])).length := by
  induction texts with
  | nil => exact Nat.le_refl 0
  | cons text texts ih =>
    rw [List.flatMap_cons, List.length_append, List.length_append, List.length_cons,
      List.length_singleton]
    omega

/-- A line cannot begin with a byte order mark, so that none is taken off the front. -/
theorem dropByteOrderMark_of_reads {texts : List (List Char)} {said : List (Option Line)}
    (h : List.Forall₂ Reads texts said) :
    dropByteOrderMark (texts.flatMap (· ++ ['\n'])) = texts.flatMap (· ++ ['\n']) := by
  cases h with
  | nil => rfl
  | @cons text first texts later hreads hlater =>
    cases text with
    | nil => rfl
    | cons c text =>
      have hmark : c ≠ '\uFEFF' := by
        intro hc
        obtain ⟨more, hline, -⟩ := hreads []
        have hnone : line ('\uFEFF' :: (text ++ ['\n'])) = none := rfl
        rw [hc, List.cons_append, hnone] at hline
        cases hline
      refine dropByteOrderMark.eq_2 _ fun rest heq => ?_
      exact hmark (List.cons.inj heq).1

theorem readLines_of_reads {texts : List (List Char)} {said : List (Option Line)}
    (h : List.Forall₂ Reads texts said) {text : String}
    (htext : text.toList = texts.flatMap (· ++ ['\n'])) :
    readLines text = some (said.flatMap Option.toList) := by
  rw [readLines, htext, dropByteOrderMark_of_reads h]
  exact linesUpTo_of_reads h (length_le_length_flatMap texts)

theorem readLines_of_says {texts : List (List Char)} {lines : List Line}
    (h : List.Forall₂ Says texts lines) {text : String}
    (htext : text.toList = texts.flatMap (· ++ ['\n'])) : readLines text = some lines := by
  have hreads : List.Forall₂ Reads texts (lines.map some) := by
    rw [List.forall₂_map_right_iff]
    exact h.imp fun _ _ => Says.reads
  rw [readLines_of_reads hreads htext, List.flatMap_map]
  simp only [Option.toList_some, List.flatMap_singleton']

/-! ## Sections -/

/-- An entry whose key has one part. -/
def plainEntry (entry : String × Toml) : Entry := ⟨⟨[], entry.1⟩, entry.2⟩

/-- A section whose name and whose keys have one part. -/
def plainSection (part : String × List (String × Toml)) : Section :=
  ⟨false, ⟨[], part.1⟩, part.2.map plainEntry⟩

/-- What the lines of the section say. -/
def sectionLines (part : String × List (String × Toml)) : List Line :=
  .tableHeader ⟨[], part.1⟩ :: part.2.map fun entry => .entry (plainEntry entry)

theorem WritesSection.says {texts : List (List Char)} {part : String × List (String × Toml)}
    (h : WritesSection texts part) : List.Forall₂ Says texts (sectionLines part) := by
  obtain ⟨hkey, hentries⟩ := h
  refine .cons hkey.says_header (List.forall₂_map_right_iff.mpr ?_)
  exact hentries.imp fun _ _ => WritesEntry.says

theorem sections_map_entry_append (entries : List (String × Toml)) (lines : List Line) :
    sections (entries.map (fun entry => .entry (plainEntry entry)) ++ lines) =
      (entries.map plainEntry ++ (sections lines).1, (sections lines).2) := by
  induction entries with
  | nil => rfl
  | cons entry entries ih =>
    rw [List.map_cons, List.cons_append, sections, ih]
    rfl

theorem sections_flatMap (parts : List (String × List (String × Toml))) :
    sections (parts.flatMap sectionLines) = ([], parts.map plainSection) := by
  induction parts with
  | nil => rfl
  | cons part parts ih =>
    rw [List.flatMap_cons, sectionLines, List.cons_append, sections, sections_map_entry_append, ih,
      List.append_nil]
    rfl

namespace Entries

theorem insertValue_of_find? {key : String} {entries : Entries} (h : find? entries key = none)
    (value : Toml) : insertValue [] key value entries = some (push entries key (.leaf value)) := by
  have hopen : ¬(decide (Origin.header = .dotted) == ([] : List String).isEmpty) = true := by
    decide
  rw [insertValue, update, if_neg hopen, h]
  rfl

theorem insertAll_plainEntry (added : List (String × Toml)) (entries : Entries)
    (h : (entries.map Prod.fst ++ added.map Prod.fst).Nodup) :
    insertAll entries (added.map plainEntry) =
      some (entries ++ added.map fun entry => (entry.1, .leaf entry.2)) := by
  induction added generalizing entries with
  | nil =>
    rw [List.map_nil, List.map_nil, List.append_nil]
    rfl
  | cons entry added ih =>
    obtain ⟨key, value⟩ := entry
    have hnew : find? entries key = none := by
      refine lookup_eq_none_iff_notMem.mpr fun hmem => ?_
      exact (List.nodup_append.mp h).2.2 key hmem key List.mem_cons_self rfl
    have hnext : ((push entries key (.leaf value)).map Prod.fst ++ added.map Prod.fst).Nodup := by
      rw [push, List.map_append, List.append_assoc]
      exact h
    have hstep := ih (push entries key (.leaf value)) hnext
    rw [insertAll] at hstep ⊢
    rw [List.map_cons, List.foldlM_cons]
    show (insertValue [] key value entries).bind _ = _
    rw [insertValue_of_find? hnew, Option.bind_some, hstep, push, List.append_assoc]
    rfl

end Entries

theorem addSection_plainSection {part : String × List (String × Toml)} {entries : Entries}
    (hnew : entries.find? part.1 = none) (hkeys : (part.2.map Prod.fst).Nodup) :
    addSection entries (plainSection part) =
      some (entries.push part.1
        (.table .header (part.2.map fun entry => (entry.1, .leaf entry.2)))) := by
  have hinsert := Entries.insertAll_plainEntry part.2 [] hkeys
  have herase : entries.erase part.1 = entries := by
    refine List.filter_eq_self.mpr fun entry hentry => bne_iff_ne.mpr fun hsame => ?_
    exact lookup_eq_none_iff_notMem.mp hnew (List.mem_map.mpr ⟨entry, hentry, hsame⟩)
  show addTable part.1 (part.2.map plainEntry) entries = _
  rw [addTable, hnew]
  dsimp only
  rw [Option.bind_eq_bind, Option.bind_some, hinsert, Option.bind_some, herase]
  rfl

/-- A section as it stands in the document under construction. -/
def plainNode (part : String × List (String × Toml)) : String × Node :=
  (part.1, .table .header (part.2.map fun entry => (entry.1, .leaf entry.2)))

theorem foldlM_addSection_plainSection (parts : List (String × List (String × Toml)))
    (entries : Entries) (hnames : (entries.map Prod.fst ++ parts.map Prod.fst).Nodup)
    (hkeys : ∀ part ∈ parts, (part.2.map Prod.fst).Nodup) :
    (parts.map plainSection).foldlM addSection entries = some (entries ++ parts.map plainNode) := by
  induction parts generalizing entries with
  | nil =>
    rw [List.map_nil, List.map_nil, List.append_nil]
    rfl
  | cons part parts ih =>
    obtain ⟨hpart, hlater⟩ := List.forall_mem_cons.mp hkeys
    have hnew : entries.find? part.1 = none := by
      refine lookup_eq_none_iff_notMem.mpr fun hmem => ?_
      exact (List.nodup_append.mp hnames).2.2 part.1 hmem part.1 List.mem_cons_self rfl
    have hnext : ((entries ++ [plainNode part]).map Prod.fst ++ parts.map Prod.fst).Nodup := by
      rw [List.map_append, List.append_assoc]
      exact hnames
    rw [List.map_cons, List.foldlM_cons, addSection_plainSection hnew hpart, Option.bind_eq_bind,
      Option.bind_some]
    have hstep := ih (entries ++ [plainNode part]) hnext hlater
    rw [List.append_assoc] at hstep
    exact hstep

theorem entriesToToml_plainNode (parts : List (String × List (String × Toml))) :
    Node.entriesToToml (parts.map plainNode) = parts.map fun part => (part.1, .table part.2) := by
  rw [Node.entriesToToml_eq_map, List.map_map]
  refine List.map_congr_left fun part _ => ?_
  have hleaves :
      Node.entriesToToml (part.2.map fun entry => (entry.1, .leaf entry.2)) = part.2 := by
    rw [Node.entriesToToml_eq_map, List.map_map]
    exact List.map_id _
  rw [Function.comp_apply, plainNode, Node.toToml, hleaves]

/-! ## Documents of sections -/

theorem says_of_writesSection {texts : List (List (List Char))}
    {parts : List (String × List (String × Toml))} (h : List.Forall₂ WritesSection texts parts) :
    List.Forall₂ Says texts.flatten (parts.flatMap sectionLines) := by
  induction h with
  | nil => exact .nil
  | cons hfirst _ ih => exact List.rel_append hfirst.says ih

/-- A document of sections with different names, each of entries with different keys, is read back
as it is written. -/
theorem parse?_of_writesSection {texts : List (List (List Char))}
    {parts : List (String × List (String × Toml))} (h : List.Forall₂ WritesSection texts parts)
    (hnames : (parts.map Prod.fst).Nodup) (hkeys : ∀ part ∈ parts, (part.2.map Prod.fst).Nodup)
    {text : String} (htext : text.toList = texts.flatten.flatMap (· ++ ['\n'])) :
    parse? text = some (parts.map fun part => (part.1, .table part.2)) := by
  have hlines : readLines text = some (parts.flatMap sectionLines) :=
    readLines_of_says (says_of_writesSection h) htext
  have hroot : Entries.insertAll [] [] = some [] := rfl
  have hbuild := foldlM_addSection_plainSection parts [] hnames hkeys
  rw [List.nil_append] at hbuild
  rw [parse?, hlines, Option.bind_eq_bind, Option.bind_some, assemble, sections_flatMap]
  dsimp only
  rw [hroot, Option.bind_eq_bind, Option.bind_some, hbuild, Option.bind_some,
    entriesToToml_plainNode]

end Toml
end ScriptReview
