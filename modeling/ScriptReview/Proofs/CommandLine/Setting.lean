import Mathlib.Data.List.Basic
import ScriptReview.CommandLine.Parse

/-!
Settings, one by one.

The record `Settings` amounts to the list of the single settings that it agrees with
(`Settings.given`), in which no parameter comes twice. To take over one more setting, with one of
the texts that stand for its value, adds it to that list (`Settings.put_of_hasText`,
`Settings.Settles.assign`).
-/

namespace ScriptReview
namespace CommandLine

/-- The text writes the number in decimal digits, perhaps with zeros in front. -/
structure WritesNumber (text : String) (number : Nat) : Prop where
  ne_nil : text.toList ≠ []
  isDigit : ∀ c ∈ text.toList, Text.isDigit c = true
  numeral : Text.numeral 10 text.toList = number
  fits : Word64.fits number = true

/-- A parameter with the value that it is given. -/
inductive Setting where
  | color (choice : ColorChoice)
  | config (path : String)
  | file (path : String)
  | sample
  | format (format : OutputFormat)
  | view (view : View)
  | delay (milliseconds : Nat)
  | exampleNumber (number : Nat)
  | force
  deriving DecidableEq

namespace Setting

def parameter : Setting → Parameter
  | color _ => .color
  | config _ => .config
  | file _ => .file
  | sample => .sample
  | format _ => .format
  | view _ => .view
  | delay _ => .delay
  | exampleNumber _ => .exampleNumber
  | force => .force

/-- The texts that stand for the value. A flag has none. -/
inductive HasText : Setting → Option String → Prop
  | color (choice : ColorChoice) : HasText (.color choice) (some choice.name)
  | config {path : String} (h : path ≠ "") : HasText (.config path) (some path)
  | file {path : String} (h : path ≠ "") : HasText (.file path) (some path)
  | sample : HasText .sample none
  | format (format : OutputFormat) : HasText (.format format) (some format.name)
  | view (view : View) : HasText (.view view) (some view.name)
  | delay {text : String} {milliseconds : Nat} (h : WritesNumber text milliseconds) :
      HasText (.delay milliseconds) (some text)
  | exampleNumber {text : String} {number : Nat} (h : WritesNumber text number) :
      HasText (.exampleNumber number) (some text)
  | force : HasText .force none

theorem HasText.takesValue_eq_isSome {setting : Setting} {text : Option String}
    (h : setting.HasText text) : setting.parameter.takesValue = text.isSome := by
  cases h <;> rfl

def IsNewTo (setting : Setting) (given : List Setting) : Prop :=
  ∀ other ∈ given, other.parameter ≠ setting.parameter

end Setting

namespace Settings

/-- The settings agree with the setting. -/
def Holds (settings : Settings) : Setting → Prop
  | .color choice => settings.color = some choice
  | .config path => settings.config = some path
  | .file path => settings.file = some path
  | .sample => settings.sample = true
  | .format format => settings.format = some format
  | .view view => settings.view = some view
  | .delay milliseconds => settings.delay = some milliseconds
  | .exampleNumber number => settings.exampleNumber = some number
  | .force => settings.force = true

/-- The single settings. -/
def given (settings : Settings) : List Setting :=
  (settings.color.map .color).toList ++ ((settings.config.map .config).toList ++
    ((settings.file.map .file).toList ++ ((if settings.sample then [.sample] else []) ++
      ((settings.format.map .format).toList ++ ((settings.view.map .view).toList ++
        ((settings.delay.map .delay).toList ++
          ((settings.exampleNumber.map .exampleNumber).toList ++
            (if settings.force then [.force] else []))))))))

variable {settings : Settings} {setting : Setting}

theorem mem_given_iff : setting ∈ settings.given ↔ settings.Holds setting := by
  cases setting <;> simp [given, Holds]

theorem nodup_map_parameter_given (settings : Settings) :
    (settings.given.map Setting.parameter).Nodup := by
  have hfield {α : Type} {parameter : Parameter} (field : Option α) (make : α → Setting)
      (h : ∀ value, (make value).parameter = parameter) :
      ((field.map make).toList.map Setting.parameter).Sublist [parameter] := by
    cases field <;> simp [h]
  have hflag (flag : Bool) (setting : Setting) :
      ((if flag then [setting] else []).map Setting.parameter).Sublist [setting.parameter] := by
    cases flag <;> simp
  have hsublist : (settings.given.map Setting.parameter).Sublist
      [.color, .config, .file, .sample, .format, .view, .delay, .exampleNumber, .force] := by
    simp only [given, List.map_append]
    exact (hfield settings.color .color fun _ => rfl).append <|
      (hfield settings.config .config fun _ => rfl).append <|
      (hfield settings.file .file fun _ => rfl).append <|
      (hflag settings.sample .sample).append <|
      (hfield settings.format .format fun _ => rfl).append <|
      (hfield settings.view .view fun _ => rfl).append <|
      (hfield settings.delay .delay fun _ => rfl).append <|
      (hfield settings.exampleNumber .exampleNumber fun _ => rfl).append <|
      hflag settings.force .force
  exact hsublist.nodup (by decide)

theorem ext_holds {other : Settings}
    (h : ∀ setting, settings.Holds setting ↔ other.Holds setting) : settings = other := by
  obtain ⟨color, config, file, sample, format, view, delay, exampleNumber, force⟩ := settings
  obtain ⟨color', config', file', sample', format', view', delay', exampleNumber', force'⟩ := other
  rw [Settings.mk.injEq]
  exact ⟨Option.ext fun value => h (.color value), Option.ext fun value => h (.config value),
    Option.ext fun value => h (.file value), Bool.eq_iff_iff.mpr (h .sample),
    Option.ext fun value => h (.format value), Option.ext fun value => h (.view value),
    Option.ext fun value => h (.delay value), Option.ext fun value => h (.exampleNumber value),
    Bool.eq_iff_iff.mpr (h .force)⟩

/-! ## The texts of values -/

theorem path_of_ne {path : String} (h : path ≠ "") : Settings.path path = .ok path := by
  rw [Settings.path, if_neg]
  simpa using h

theorem number_of_writesNumber {text : String} {n : Nat} (h : WritesNumber text n) :
    number text = .ok n := by
  unfold number
  split
  · -- A digit is no plus sign.
    rename_i digits htext
    exact absurd (h.isDigit '+' (htext ▸ List.mem_cons_self)) (by decide)
  · have hall : text.toList.all Text.isDigit = true := List.all_eq_true.mpr h.isDigit
    have hne : text.toList.isEmpty = false := List.isEmpty_eq_false_iff.mpr h.ne_nil
    simp only [hne, hall, h.numeral, h.fits]
    rfl

theorem choice_color (color : ColorChoice) :
    choice ColorChoice.all ColorChoice.name color.name = .ok color := by
  cases color <;> rfl

theorem choice_format (format : OutputFormat) :
    choice OutputFormat.all OutputFormat.name format.name = .ok format := by
  cases format <;> rfl

theorem choice_view (view : View) : choice View.every View.name view.name = .ok view := by
  cases view <;> rfl

/-! ## Taking over one more -/

def assign (settings : Settings) : Setting → Settings
  | .color choice => { settings with color := some choice }
  | .config path => { settings with config := some path }
  | .file path => { settings with file := some path }
  | .sample => { settings with sample := true }
  | .format format => { settings with format := some format }
  | .view view => { settings with view := some view }
  | .delay milliseconds => { settings with delay := some milliseconds }
  | .exampleNumber number => { settings with exampleNumber := some number }
  | .force => { settings with force := true }

/-- Nothing has been given to the parameter. -/
def Lacks (settings : Settings) (parameter : Parameter) : Prop :=
  ∀ setting, settings.Holds setting → setting.parameter ≠ parameter

theorem holds_assign_iff (h : settings.Lacks setting.parameter) (other : Setting) :
    (settings.assign setting).Holds other ↔ settings.Holds other ∨ setting = other := by
  have hother := h other
  cases setting <;> cases other <;> simp_all [assign, Holds, Setting.parameter]

theorem once_of_read {α : Type} {current : Option α} {read : String → Except UsageError α}
    {text : String} {value : α} (hnone : ∀ old, current ≠ some old)
    (hread : read text = .ok value) : once current read (some text) = .ok (some value) := by
  rw [once, Option.eq_none_iff_forall_ne_some.mpr hnone, hread]
  rfl

theorem flagOnce_of_not {current : Bool} (h : ¬current = true) : flagOnce current = .ok true := by
  rw [flagOnce, if_neg h]

theorem put_of_hasText {text : Option String} (htext : setting.HasText text)
    (h : settings.Lacks setting.parameter) :
    settings.put setting.parameter text = .ok (settings.assign setting) := by
  cases htext with
  | color choice =>
    rw [Setting.parameter, put,
      once_of_read (fun old hold => h (.color old) hold rfl) (choice_color choice)]
    rfl
  | config hpath =>
    rw [Setting.parameter, put,
      once_of_read (fun old hold => h (.config old) hold rfl) (path_of_ne hpath)]
    rfl
  | file hpath =>
    rw [Setting.parameter, put,
      once_of_read (fun old hold => h (.file old) hold rfl) (path_of_ne hpath)]
    rfl
  | sample =>
    rw [Setting.parameter, put, flagOnce_of_not fun hold => h .sample hold rfl]
    rfl
  | format format =>
    rw [Setting.parameter, put,
      once_of_read (fun old hold => h (.format old) hold rfl) (choice_format format)]
    rfl
  | view view =>
    rw [Setting.parameter, put,
      once_of_read (fun old hold => h (.view old) hold rfl) (choice_view view)]
    rfl
  | delay hnumber =>
    rw [Setting.parameter, put,
      once_of_read (fun old hold => h (.delay old) hold rfl) (number_of_writesNumber hnumber)]
    rfl
  | exampleNumber hnumber =>
    rw [Setting.parameter, put,
      once_of_read (fun old hold => h (.exampleNumber old) hold rfl)
        (number_of_writesNumber hnumber)]
    rfl
  | force =>
    rw [Setting.parameter, put, flagOnce_of_not fun hold => h .force hold rfl]
    rfl

/-- The settings are exactly those that are given. -/
def Settles (settings : Settings) (given : List Setting) : Prop :=
  ∀ setting, settings.Holds setting ↔ setting ∈ given

theorem settles_empty : empty.Settles [] := by
  intro setting
  cases setting <;> simp [Holds, empty]

theorem Settles.lacks {given : List Setting} {parameter : Parameter} (h : settings.Settles given)
    (hnew : ∀ other ∈ given, other.parameter ≠ parameter) : settings.Lacks parameter :=
  fun other hother => hnew other ((h other).mp hother)

theorem Settles.assign {given : List Setting} (h : settings.Settles given)
    (hnew : setting.IsNewTo given) : (settings.assign setting).Settles (given ++ [setting]) := by
  intro other
  rw [holds_assign_iff (h.lacks hnew), h other, List.mem_append, List.mem_singleton, eq_comm]

end Settings
end CommandLine
end ScriptReview
