import ScriptReview.Proofs.Config.Sections
import ScriptReview.Proofs.Toml.Written

/-!
Configuration files as they are written.

A layout says which sections a file has, which keys they set to what, and in which order all of this
stands. Its text is a document, which has an entry for each section and in it one for each line
(`parse?_text`).
-/

namespace ScriptReview

open Schema Toml

theorem Text.toNat_of_isAlphanum {c : Char} (h : c.isAlphanum = true) :
    (48 ≤ c.toNat ∧ c.toNat ≤ 57) ∨ (65 ≤ c.toNat ∧ c.toNat ≤ 90) ∨
      (97 ≤ c.toNat ∧ c.toNat ≤ 122) := by
  have hbetween {first last : UInt32}
      (h : (decide (c.val ≥ first) && decide (c.val ≤ last)) = true) :
      first.toNat ≤ c.toNat ∧ c.toNat ≤ last.toNat := by
    rwa [Bool.and_eq_true, decide_eq_true_iff, decide_eq_true_iff, ge_iff_le,
      UInt32.le_iff_toNat_le, UInt32.le_iff_toNat_le] at h
  rcases Bool.or_eq_true _ _ ▸ h with hletter | hdigit
  · rcases Bool.or_eq_true _ _ ▸ hletter with hupper | hlower
    · exact .inr (.inl (hbetween ((Bool.decide_and _ _).symm.trans hupper)))
    · exact .inr (.inr (hbetween hlower))
  · exact .inl (hbetween hdigit)

/-- What a rule identifier holds may stand between quotes as it is. -/
theorem isPlain_of_isRuleIdChar {c : Char} (h : isRuleIdChar c = true) : isPlain c = true := by
  have hcode : 0x20 ≤ c.toNat ∧ c.toNat ≠ 0x7F ∧ c.toNat ≠ 34 ∧ c.toNat ≠ 92 := by
    rw [isRuleIdChar, Bool.or_eq_true, Bool.or_eq_true, beq_iff_eq, beq_iff_eq] at h
    rcases h with (h | rfl) | rfl
    · rw [Text.isAlphanumeric, Bool.or_eq_true, Bool.and_eq_true, decide_eq_true_iff] at h
      rcases h with h | h
      · have := Text.toNat_of_isAlphanum h
        omega
      · omega
    · decide
    · decide
  obtain ⟨hspace, hdelete, hquote, hbackslash⟩ := hcode
  have hshown : isShown c = true := by
    rw [isShown, Bool.or_eq_true, Bool.and_eq_true, decide_eq_true_iff, decide_eq_true_iff]
    exact .inr ⟨hspace, hdelete⟩
  rw [isPlain, hshown, Bool.true_and, Bool.and_eq_true, decide_eq_true_iff, decide_eq_true_iff]
  constructor
  · rintro rfl
    exact hquote rfl
  · rintro rfl
    exact hbackslash rfl

theorem RuleId.isRuleIdChar_of_mem (id : RuleId) {c : Char} (h : c ∈ id.name.toList) :
    isRuleIdChar c = true := by
  have hname := id.isRuleId_name
  rw [isRuleId, Bool.and_eq_true] at hname
  exact List.all_eq_true.mp hname.2 c h

namespace Config

/-! ## Layouts -/

/-- A line of the section on output. -/
inductive OutputLine where
  | format (format : OutputFormat)
  | color (color : ColorChoice)
  | view (view : View)

namespace OutputLine

def key : OutputLine → String
  | format _ => "format"
  | color _ => "color"
  | view _ => "view"

/-- The name of the choice that the line makes. -/
def choice : OutputLine → String
  | format found => found.name
  | color found => found.name
  | view found => found.name

def format? : OutputLine → Option OutputFormat
  | format found => some found
  | _ => none

def color? : OutputLine → Option ColorChoice
  | color found => some found
  | _ => none

def view? : OutputLine → Option View
  | view found => some found
  | _ => none

end OutputLine

/-- A section with its lines in the order in which they are written. -/
inductive Part where
  | version
  | analysis (latency : Option Nat) (latency_le : ∀ n ∈ latency, n ≤ 9223372036854775807)
  | rules (switches : List (RuleId × Bool)) (nodup : (switches.map Prod.fst).Nodup)
  | output (lines : List OutputLine) (nodup : (lines.map OutputLine.key).Nodup)

namespace Part

def name : Part → String
  | version => "jsreview"
  | analysis _ _ => "analysis"
  | rules _ _ => "rules"
  | output _ _ => "output"

def quoted (text : String) : String := "\"" ++ text ++ "\""

/-- The keys and the values of the lines as they are written. -/
def lines : Part → List (String × String)
  | version => [("version", quoted "1")]
  | analysis latency _ => latency.toList.map fun n => ("simulated_latency_ms", toString n)
  | rules switches _ => switches.map fun (id, enabled) => (quoted id.name, toString enabled)
  | output lines _ => lines.map fun line => (line.key, quoted line.choice)

/-- The header of the section and its lines. -/
def text (part : Part) : String :=
  "[" ++ part.name ++ "]\n" ++
    String.join (part.lines.map fun (key, value) => key ++ " = " ++ value ++ "\n")

def latency? : Part → Option (Option Nat)
  | analysis latency _ => some latency
  | _ => none

def switches? : Part → Option (List (RuleId × Bool))
  | rules switches _ => some switches
  | _ => none

def outputLines? : Part → Option (List OutputLine)
  | output lines _ => some lines
  | _ => none

end Part

/-- A configuration file: its sections in the order in which they are written. -/
structure Layout where
  parts : List Part
  nodup_names : (parts.map Part.name).Nodup
  version_mem : .version ∈ parts

namespace Layout

variable (layout : Layout)

def text : String := String.join (layout.parts.map Part.text)

example : (Layout.mk [.output [.view .issues, .format .jsonl] (by decide), .version]
    (by decide) (.tail _ (.head _))).text =
      "[output]\nview = \"issues\"\nformat = \"jsonl\"\n[jsreview]\nversion = \"1\"\n" := by
  decide

/-- The switches that are written, if there is a section for them. -/
def switches : List (RuleId × Bool) := (layout.parts.findSome? Part.switches?).getD []

/-- The lines on output that are written, if there is a section for them. -/
def outputLines : List OutputLine := (layout.parts.findSome? Part.outputLines?).getD []

/-- The values that are written, and the defaults for those that are left out. -/
def config : Config where
  latency := (layout.parts.findSome? Part.latency?).join.getD 0
  rules := Toggles.ofList layout.switches
  output :=
    { format := (layout.outputLines.findSome? OutputLine.format?).getD .human
      color := (layout.outputLines.findSome? OutputLine.color?).getD .auto
      view := (layout.outputLines.findSome? OutputLine.view?).getD .all }

end Layout

/-! ## The document that is written -/

namespace Part

/-- The entries that the lines write. -/
def entries : Part → List (String × Toml)
  | version => [("version", .string "1")]
  | analysis latency _ => latency.toList.map fun n : Nat => ("simulated_latency_ms", .integer n)
  | rules switches _ => switches.map Toggles.entryOf
  | output lines _ => lines.map fun line => (line.key, .string line.choice)

/-- The header and the lines as characters, without their ends. -/
def chars (part : Part) : List (List Char) :=
  ('[' :: (part.name.toList ++ [']'])) ::
    part.lines.map fun line => line.1.toList ++ ' ' :: '=' :: ' ' :: line.2.toList

theorem toList_text (part : Part) : part.text.toList = part.chars.flatMap (· ++ ['\n']) := by
  rw [text, chars]
  simp [String.toList_join, List.flatMap_map]

theorem writesKey_of_mem {name : String}
    (h : name ∈ ["jsreview", "version", "analysis", "simulated_latency_ms", "rules", "output",
      "format", "color", "view"]) : WritesKey name.toList name := by
  have hnames : ∀ name ∈ ["jsreview", "version", "analysis", "simulated_latency_ms", "rules",
      "output", "format", "color", "view"],
      name.toList ≠ [] ∧ name.toList.all isKeyChar = true := by decide
  exact .bare (hnames name h).1 (List.all_eq_true.1 (hnames name h).2)

theorem toList_quoted (text : String) : (quoted text).toList = '"' :: (text.toList ++ ['"']) := by
  simp [quoted]

theorem isPlain_of_mem_choice (line : OutputLine) : ∀ c ∈ line.choice.toList, isPlain c = true := by
  rw [← List.all_eq_true]
  cases line with
  | format found => cases found <;> decide
  | color found => cases found <;> decide
  | view found => cases found <;> decide

theorem writesEntry (part : Part) :
    List.Forall₂ WritesEntry
      (part.lines.map fun line => line.1.toList ++ ' ' :: '=' :: ' ' :: line.2.toList)
      part.entries := by
  cases part with
  | version =>
    refine .cons (.intro (writesKey_of_mem (by simp)) ?_) .nil
    rw [toList_quoted]
    exact .string (List.all_eq_true.1 (by decide))
  | analysis latency hlatency =>
    cases latency with
    | none => exact .nil
    | some n =>
      refine .cons (.intro (writesKey_of_mem (by simp)) ?_) .nil
      dsimp only
      rw [Nat.toString_eq_repr, Nat.toList_repr]
      exact .integer (hlatency n rfl)
  | rules switches hswitches =>
    rw [lines, entries, List.map_map, List.forall₂_map_left_iff, List.forall₂_map_right_iff,
      List.forall₂_same]
    rintro ⟨id, enabled⟩ -
    refine .intro ?_ ?_
    · rw [toList_quoted]
      exact .quoted fun c hc => isPlain_of_isRuleIdChar (id.isRuleIdChar_of_mem hc)
    · cases enabled with
      | false => exact .no
      | true => exact .yes
  | output lines hlines =>
    rw [Part.lines, entries, List.map_map, List.forall₂_map_left_iff, List.forall₂_map_right_iff,
      List.forall₂_same]
    intro line _
    refine .intro (writesKey_of_mem ?_) ?_
    · cases line <;> simp [OutputLine.key]
    · rw [toList_quoted]
      exact .string (isPlain_of_mem_choice line)

theorem writesSection (part : Part) : WritesSection part.chars (part.name, part.entries) := by
  refine .intro (writesKey_of_mem ?_) part.writesEntry
  cases part <;> simp [name]

theorem nodup_entries (part : Part) : (part.entries.map Prod.fst).Nodup := by
  cases part with
  | version => exact List.nodup_singleton _
  | analysis latency hlatency =>
    cases latency with
    | none => exact List.nodup_nil
    | some n => exact List.nodup_singleton _
  | rules switches hswitches =>
    have hnames := hswitches.map (f := RuleId.name) fun _ _ => RuleId.ext
    rw [List.map_map] at hnames
    rw [entries, List.map_map]
    exact hnames
  | output lines hlines =>
    rw [entries, List.map_map]
    exact hlines

end Part

namespace Layout

variable (layout : Layout)

def entries : List (String × Toml) :=
  layout.parts.map fun part => (part.name, .table part.entries)

theorem writesSections :
    List.Forall₂ WritesSection (layout.parts.map Part.chars)
      (layout.parts.map fun part => (part.name, part.entries)) := by
  rw [List.forall₂_map_left_iff, List.forall₂_map_right_iff, List.forall₂_same]
  exact fun part _ => part.writesSection

theorem toList_text :
    layout.text.toList = (layout.parts.map Part.chars).flatten.flatMap (· ++ ['\n']) := by
  rw [text, String.toList_join, List.flatMap_map]
  simp only [Part.toList_text]
  rw [← List.flatMap_def, List.flatMap_assoc]

theorem parse?_text : Toml.parse? layout.text = some layout.entries := by
  have hnames : ((layout.parts.map fun part => (part.name, part.entries)).map Prod.fst).Nodup := by
    rw [List.map_map]
    exact layout.nodup_names
  have hkeys : ∀ part ∈ layout.parts.map fun part => (part.name, part.entries),
      (part.2.map Prod.fst).Nodup :=
    List.forall_mem_map.mpr fun part _ => part.nodup_entries
  rw [parse?_of_writesSection layout.writesSections hnames hkeys layout.toList_text, List.map_map]
  rfl

end Layout
end Config
end ScriptReview
