import Mathlib.Data.List.TakeWhile
import ScriptReview.Proofs.CommandLine.Setting

/-!
The command lines that spell an invocation.

A setting is spelled by one argument or two (`Setting.Spelled`): a flag by its name; an option by
its name or letter, with its value as the next argument or attached to it; the file by itself. A
command line that spells an invocation (`Spelling`) spells each of its settings once, in any order.
-/

namespace ScriptReview
namespace CommandLine

/-! ## Single arguments -/

/-- The argument is taken for no option: it does not begin with a hyphen, or is nothing else. -/
def IsWord (argument : String) : Prop :=
  argument.toList.head? ≠ some '-' ∨ argument = "-"

namespace Token

variable {name text : String} {letter : Char}

theorem splitAtEquals_name (hname : '=' ∉ name.toList) :
    splitAtEquals name.toList = (name, none) := by
  have hall : ∀ c ∈ name.toList, decide (c ≠ '=') = true := fun c hc =>
    decide_eq_true fun h => hname (h ▸ hc)
  rw [splitAtEquals, List.dropWhile_eq_nil_iff.mpr hall, List.takeWhile_eq_self_iff.mpr hall,
    String.ofList_toList]

theorem splitAtEquals_joined (hname : '=' ∉ name.toList) (text : String) :
    splitAtEquals (name.toList ++ '=' :: text.toList) = (name, some text) := by
  have hall : ∀ c ∈ name.toList, decide (c ≠ '=') = true := fun c hc =>
    decide_eq_true fun h => hname (h ▸ hc)
  rw [splitAtEquals, List.dropWhile_append_of_pos hall, List.takeWhile_append_of_pos hall,
    List.dropWhile_cons_of_neg (by decide), List.takeWhile_cons_of_neg (by decide),
    List.append_nil, String.ofList_toList]
  exact congrArg (fun value => (name, some value)) String.ofList_toList

theorem ofString_of_toList_long {argument : String} {rest : List Char} (hne : rest ≠ [])
    (h : argument.toList = '-' :: '-' :: rest) :
    ofString argument = .long (splitAtEquals rest).1 (splitAtEquals rest).2 := by
  obtain ⟨c, rest, rfl⟩ := List.exists_cons_of_ne_nil hne
  rw [ofString, h]
  rfl

theorem ofString_long (hne : name ≠ "") (hname : '=' ∉ name.toList) :
    ofString ("--" ++ name) = .long name none := by
  have hnil : name.toList ≠ [] := fun h => hne (String.toList_eq_nil_iff.mp h)
  have hlist : ("--" ++ name).toList = '-' :: '-' :: name.toList := by
    rw [String.toList_append]
    rfl
  rw [ofString_of_toList_long hnil hlist, splitAtEquals_name hname]

theorem ofString_joined (hname : '=' ∉ name.toList) :
    ofString ("--" ++ name ++ "=" ++ text) = .long name (some text) := by
  have hlist : ("--" ++ name ++ "=" ++ text).toList =
      '-' :: '-' :: (name.toList ++ '=' :: text.toList) := by
    simp [String.toList_append]
  rw [ofString_of_toList_long (by simp) hlist, splitAtEquals_joined hname]

theorem ofString_of_toList_letters {argument : String} {rest : List Char} (hletter : letter ≠ '-')
    (h : argument.toList = '-' :: letter :: rest) :
    ofString argument = .letters (letter :: rest) := by
  rw [ofString, h]
  split
  all_goals simp_all

theorem ofString_letter (h : letter ≠ '-') :
    ofString ("-" ++ letter.toString) = .letters [letter] :=
  ofString_of_toList_letters h (by simp [Char.toString])

theorem ofString_letter_attached (h : letter ≠ '-') :
    ofString ("-" ++ letter.toString ++ text) = .letters (letter :: text.toList) :=
  ofString_of_toList_letters h (by simp [Char.toString])

theorem ofString_letter_joined (h : letter ≠ '-') :
    ofString ("-" ++ letter.toString ++ "=" ++ text) = .letters (letter :: '=' :: text.toList) :=
  ofString_of_toList_letters h (by simp [Char.toString])

theorem ofString_word (h : IsWord text) : ofString text = .word text := by
  rcases h with h | rfl
  · rw [ofString]
    split
    all_goals simp_all
  · rfl

end Token

/-! ## Pieces of a command line -/

namespace Setting

/-- The name of an option or flag, which stands after two hyphens. -/
def name? : Setting → Option String
  | color _ => some "color"
  | config _ => some "config"
  | file _ => none
  | sample => some "sample"
  | format _ => some "format"
  | view _ => some "view"
  | delay _ => some "delay-ms"
  | exampleNumber _ => some "example"
  | force => some "force"

/-- The letter of an option, which stands after one hyphen. -/
def letter? : Setting → Option Char
  | format _ => some 'f'
  | _ => none

/-- Can it stand before the command? -/
def isGlobal : Setting → Bool
  | color _ => true
  | config _ => true
  | _ => false

/-- The arguments that spell a setting by its name. -/
inductive SpelledByName (setting : Setting) : List String → Prop
  | flag {name : String} (hname : setting.name? = some name) (htext : setting.HasText none) :
      SpelledByName setting ["--" ++ name]
  | separate {name text : String} (hname : setting.name? = some name)
      (htext : setting.HasText (some text)) (hword : IsWord text) :
      SpelledByName setting ["--" ++ name, text]
  | joined {name text : String} (hname : setting.name? = some name)
      (htext : setting.HasText (some text)) :
      SpelledByName setting ["--" ++ name ++ "=" ++ text]

/-- The arguments that spell a setting by its letter. -/
inductive SpelledByLetter (setting : Setting) : List String → Prop
  | separate {letter : Char} {text : String} (hletter : setting.letter? = some letter)
      (htext : setting.HasText (some text)) (hword : IsWord text) :
      SpelledByLetter setting ["-" ++ letter.toString, text]
  | attached {letter : Char} {text : String} (hletter : setting.letter? = some letter)
      (htext : setting.HasText (some text)) :
      SpelledByLetter setting ["-" ++ letter.toString ++ text]
  | joined {letter : Char} {text : String} (hletter : setting.letter? = some letter)
      (htext : setting.HasText (some text)) :
      SpelledByLetter setting ["-" ++ letter.toString ++ "=" ++ text]

/-- The arguments that spell a setting. -/
inductive Spelled : Setting → List String → Prop
  | name {setting : Setting} {arguments : List String} (h : setting.SpelledByName arguments) :
      Spelled setting arguments
  | letter {setting : Setting} {arguments : List String} (h : setting.SpelledByLetter arguments) :
      Spelled setting arguments
  | word {path : String} (hne : path ≠ "") (hword : IsWord path) : Spelled (.file path) [path]

variable {setting : Setting}

theorem name?_ne_empty {name : String} (h : setting.name? = some name) :
    name ≠ "" ∧ '=' ∉ name.toList := by
  cases setting <;> cases h <;> decide

theorem letter?_ne_hyphen {letter : Char} (h : setting.letter? = some letter) : letter ≠ '-' := by
  cases setting <;> cases h
  decide

theorem HasText.attachedValue_toList {letter : Char} {text : String}
    (htext : setting.HasText (some text)) (h : setting.letter? = some letter) :
    Progress.attachedValue text.toList = some text := by
  cases htext with
  | format format => cases format <;> decide
  | _ => cases h

end Setting

/-- The setting can be spelled in the scope in all its ways. -/
structure Scope.Allows (scope : Scope) (setting : Setting) : Prop where
  long : ∀ name, setting.name? = some name → scope.long? name = some setting.parameter
  short : ∀ letter, setting.letter? = some letter → scope.short? letter = some setting.parameter
  positional : setting.parameter = .file → scope.positional? = some .file

theorem Scope.allows_of_isGlobal (scope : Scope) {setting : Setting}
    (h : setting.isGlobal = true) : scope.Allows setting := by
  cases setting with
  | color choice | config path =>
    exact ⟨fun _ h => by cases h; rfl, fun _ h => (by cases h), fun h => (by cases h)⟩
  | _ => cases h

/-- A setting with the arguments that spell it. -/
structure Piece where
  setting : Setting
  arguments : List String
  spelled : setting.Spelled arguments

def Piece.all (pieces : List Piece) : List String :=
  pieces.flatMap Piece.arguments

def Piece.sampleFlag : Piece where
  setting := .sample
  arguments := ["--sample"]
  spelled := (.name (.flag rfl .sample) : Setting.Spelled .sample ["--" ++ "sample"])

/-- What follows the name of a command: pieces, and perhaps the file behind a separator. -/
structure Tail where
  pieces : List Piece
  last : Option String

namespace Tail

def arguments (tail : Tail) : List String :=
  Piece.all tail.pieces ++
    match tail.last with
    | some path => ["--", path]
    | none => []

def settings (tail : Tail) : List Setting :=
  tail.pieces.map Piece.setting ++ (tail.last.map Setting.file).toList

/-- One more piece, behind that many of the others. -/
def insert (tail : Tail) (piece : Piece) (count : Nat) : Tail :=
  { tail with pieces := tail.pieces.take count ++ piece :: tail.pieces.drop count }

theorem perm_settings_insert (tail : Tail) (piece : Piece) (count : Nat) :
    (tail.insert piece count).settings.Perm (piece.setting :: tail.settings) := by
  rw [settings, insert, List.map_append, List.map_cons, List.append_assoc, List.cons_append]
  refine List.perm_middle.trans ?_
  rw [← List.append_assoc, ← List.map_append, List.take_append_drop]
  rfl

end Tail

/-! ## Invocations -/

namespace Command

def name : Command → String
  | analyze _ => "analyze"
  | sample => "sample"
  | list _ => "list"
  | init _ => "init"

def scope : Command → Scope
  | analyze _ => .analyze
  | sample => .sample
  | list _ => .list
  | init _ => .init

/-- What the command settles. -/
def settings : Command → Settings
  | analyze arguments =>
    { Settings.empty with
      file := arguments.file
      sample := arguments.sample
      format := arguments.format
      view := arguments.view
      delay := arguments.delay
      exampleNumber := arguments.exampleNumber }
  | sample => .empty
  | list format => { Settings.empty with format }
  | init force => { Settings.empty with force }

theorem ofCommandName?_name (command : Command) :
    Scope.ofCommandName? command.name = some command.scope := by
  cases command <;> rfl

theorem name_ne_help (command : Command) : (command.name == "help") = false := by
  cases command <;> rfl

theorem allows_of_holds {command : Command} {setting : Setting}
    (h : command.settings.Holds setting) : command.scope.Allows setting := by
  cases setting with
  | color choice | config path => exact command.scope.allows_of_isGlobal rfl
  | format format =>
    cases command with
    | analyze _ | list _ =>
      exact ⟨fun _ h => by cases h; rfl, fun _ h => by cases h; rfl, fun h => (by cases h)⟩
    | sample | init _ => cases h
  | force =>
    cases command with
    | init _ => exact ⟨fun _ h => by cases h; rfl, fun _ h => (by cases h), fun h => (by cases h)⟩
    | _ => cases h
  | _ =>
    cases command with
    | analyze _ =>
      exact ⟨fun _ h => by cases h <;> rfl, fun _ h => (by cases h), fun h => by cases h <;> rfl⟩
    | _ => cases h

end Command

namespace Invocation

/-- What the invocation settles. -/
def settings (invocation : Invocation) : Settings :=
  { invocation.command.settings with color := invocation.color, config := invocation.config }

/-- A file is to be reviewed, and the sample too. -/
def CombinesSources (invocation : Invocation) : Prop :=
  ∃ arguments, invocation.command = .analyze arguments ∧ arguments.file.isSome = true ∧
    arguments.sample = true

end Invocation

/-- A command line that spells an invocation: each setting once, and only options that every command
takes before the name of the command. -/
structure Spelling (invocation : Invocation) where
  before : List Piece
  after : Tail
  isGlobal : ∀ piece ∈ before, piece.setting.isGlobal = true
  ne_empty : ∀ path ∈ after.last, path ≠ ""
  perm : (before.map Piece.setting ++ after.settings).Perm invocation.settings.given

namespace Spelling

variable {invocation : Invocation}

def arguments (spelling : Spelling invocation) : List String :=
  Piece.all spelling.before ++ invocation.command.name :: spelling.after.arguments

/-- The command line with the flag for the sample, behind that many of the pieces that follow the
name of the command. -/
def argumentsWithSample (spelling : Spelling invocation) (count : Nat) : List String :=
  Piece.all spelling.before ++
    invocation.command.name :: (spelling.after.insert .sampleFlag count).arguments

end Spelling

/-! ### Every invocation can be spelled -/

theorem Setting.exists_spelled {setting : Setting} {text : Option String}
    (htext : setting.HasText text) (hname : setting.name?.isSome = true) :
    ∃ arguments, setting.Spelled arguments := by
  obtain ⟨name, hname⟩ := Option.isSome_iff_exists.mp hname
  cases text with
  | none => exact ⟨_, .name (.flag hname htext)⟩
  | some text => exact ⟨_, .name (.joined hname htext)⟩

theorem exists_map_setting_eq {settings : List Setting}
    (h : ∀ setting ∈ settings, (∃ text, setting.HasText text) ∧ setting.name?.isSome = true) :
    ∃ pieces : List Piece, pieces.map Piece.setting = settings := by
  induction settings with
  | nil => exact ⟨[], rfl⟩
  | cons setting settings ih =>
    obtain ⟨⟨text, htext⟩, hname⟩ := h setting List.mem_cons_self
    obtain ⟨arguments, hspelled⟩ := Setting.exists_spelled htext hname
    obtain ⟨pieces, rfl⟩ := ih fun other hother => h other (List.mem_cons_of_mem _ hother)
    exact ⟨⟨setting, arguments, hspelled⟩ :: pieces, rfl⟩

/-- Only the file has no name. -/
theorem Settings.filter_given_name?_eq_none (settings : Settings) :
    (settings.given.filter fun setting => !setting.name?.isSome) =
      (settings.file.map Setting.file).toList := by
  have hfield {α : Type} (field : Option α) (make : α → Setting)
      (h : ∀ value, (!(make value).name?.isSome) = false) :
      ((field.map make).toList.filter fun setting => !setting.name?.isSome) = [] := by
    cases field with
    | none => rfl
    | some value => exact List.filter_cons_of_neg (Bool.not_eq_true _ ▸ h value)
  have hflag (flag : Bool) (setting : Setting) (h : (!setting.name?.isSome) = false) :
      ((if flag then [setting] else []).filter fun setting => !setting.name?.isSome) = [] := by
    cases flag with
    | false => rfl
    | true => exact List.filter_cons_of_neg (Bool.not_eq_true _ ▸ h)
  have hfile : ((settings.file.map Setting.file).toList.filter fun setting =>
      !setting.name?.isSome) = (settings.file.map Setting.file).toList := by
    cases settings.file <;> rfl
  simp only [given, List.filter_append, hfile]
  rw [hfield settings.color .color fun _ => rfl, hfield settings.config .config fun _ => rfl,
    hflag settings.sample .sample rfl, hfield settings.format .format fun _ => rfl,
    hfield settings.view .view fun _ => rfl, hfield settings.delay .delay fun _ => rfl,
    hfield settings.exampleNumber .exampleNumber fun _ => rfl, hflag settings.force .force rfl]
  simp

theorem exists_spelling {invocation : Invocation}
    (h : ∀ setting, invocation.settings.Holds setting → ∃ text, setting.HasText text) :
    Nonempty (Spelling invocation) := by
  -- Everything is spelled by its name but the file, which goes behind the separator.
  have hnamed : ∀ setting ∈ invocation.settings.given.filter fun setting => setting.name?.isSome,
      (∃ text, setting.HasText text) ∧ setting.name?.isSome = true := by
    intro setting hmem
    obtain ⟨hmem, hname⟩ := List.mem_filter.mp hmem
    exact ⟨h setting (Settings.mem_given_iff.mp hmem), hname⟩
  obtain ⟨pieces, hpieces⟩ := exists_map_setting_eq hnamed
  have hpath : ∀ path ∈ invocation.settings.file, path ≠ "" := by
    intro path hpath
    obtain ⟨text, htext⟩ := h (.file path) hpath
    cases htext with
    | file hne => exact hne
  have hperm : (pieces.map Piece.setting ++
      (invocation.settings.file.map Setting.file).toList).Perm invocation.settings.given := by
    rw [hpieces, ← Settings.filter_given_name?_eq_none]
    exact List.filter_append_perm _ _
  exact ⟨{ before := []
           after := ⟨pieces, invocation.settings.file⟩
           isGlobal := List.forall_mem_nil _
           ne_empty := hpath
           perm := hperm }⟩

end CommandLine
end ScriptReview
