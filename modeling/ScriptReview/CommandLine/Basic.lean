import ScriptReview.Config.Basic
import ScriptReview.Text.Reader
import ScriptReview.Word64

/-!
What a command line can ask for.
-/

namespace ScriptReview
namespace CommandLine

/-- What is to be reviewed, and how the result is to be shown. -/
structure AnalyzeArguments where
  file : Option String
  sample : Bool
  format : Option OutputFormat
  view : Option View
  /-- Milliseconds to wait before the result is shown. -/
  delay : Option Nat
  /-- The number of the suggestion of which only the example is wanted. -/
  exampleNumber : Option Nat
  deriving DecidableEq

inductive Command where
  | analyze (arguments : AnalyzeArguments)
  | sample
  | list (format : Option OutputFormat)
  | init (force : Bool)
  deriving DecidableEq

/-- A command with the options that every command takes. -/
structure Invocation where
  command : Command
  color : Option ColorChoice
  config : Option String
  deriving DecidableEq

/-- Why a command line asks for no command that can be run. -/
inductive UsageError where
  | helpRequested
  | versionRequested
  /-- There are no arguments at all. -/
  | nothingRequested
  | missingCommand
  | unknownCommand
  | unknownArgument
  /-- A value is missing or is none of the possible ones. -/
  | invalidValue
  | invalidNumber
  /-- A flag has a value. -/
  | unexpectedValue
  /-- An option is given twice, or together with one that excludes it. -/
  | conflict
  deriving DecidableEq

namespace UsageError

/-- Asking for help or for the version is no failure. -/
def exitCode : UsageError → Nat
  | helpRequested => 0
  | versionRequested => 0
  | _ => 2

end UsageError

/-! ## Options -/

/-- The options, flags and positions of all commands. -/
inductive Parameter where
  | color
  | config
  | file
  | sample
  | format
  | view
  | delay
  | exampleNumber
  | force
  | help
  | version
  deriving DecidableEq

/-- Does a value belong to the parameter? -/
def Parameter.takesValue : Parameter → Bool
  | sample => false
  | force => false
  | help => false
  | version => false
  | _ => true

/-- What has been given so far. -/
structure Settings where
  color : Option ColorChoice
  config : Option String
  file : Option String
  sample : Bool
  format : Option OutputFormat
  view : Option View
  delay : Option Nat
  exampleNumber : Option Nat
  force : Bool
  deriving DecidableEq

namespace Settings

def empty : Settings := ⟨none, none, none, false, none, none, none, none, false⟩

/-- The value of a type with few values that has the name. -/
def choice {α : Type} (values : List α) (nameOf : α → String) (text : String) :
    Except UsageError α :=
  match values.find? fun value => nameOf value == text with
  | some value => .ok value
  | none => .error .invalidValue

/-- A path, which is not empty. -/
def path (text : String) : Except UsageError String :=
  if text.isEmpty then .error .invalidValue else .ok text

/-- A number of 64 bits, in decimal digits that may follow a plus sign. -/
def number (text : String) : Except UsageError Nat :=
  let digits :=
    match text.toList with
    | '+' :: digits => digits
    | digits => digits
  let value := Text.numeral 10 digits
  if !digits.isEmpty && digits.all Text.isDigit && Word64.fits value then .ok value
  else .error .invalidNumber

/-- The first value of a parameter. It has to be there, and no value may be there before it. -/
def once {α : Type} (current : Option α) (read : String → Except UsageError α) :
    Option String → Except UsageError (Option α)
  | none => .error .invalidValue
  | some text => if current.isSome then .error .conflict else (read text).map some

/-- A flag that is set for the first time. -/
def flagOnce (current : Bool) : Except UsageError Bool :=
  if current then .error .conflict else .ok true

/-- Take a parameter over, with the text of its value if it has one. -/
def put (settings : Settings) (parameter : Parameter) (text : Option String) :
    Except UsageError Settings :=
  match parameter with
  | .color =>
    (once settings.color (choice ColorChoice.all ColorChoice.name) text).map fun color =>
      { settings with color }
  | .config => (once settings.config path text).map fun config => { settings with config }
  | .file => (once settings.file path text).map fun file => { settings with file }
  | .sample => (flagOnce settings.sample).map fun sample => { settings with sample }
  | .format =>
    (once settings.format (choice OutputFormat.all OutputFormat.name) text).map fun format =>
      { settings with format }
  | .view =>
    (once settings.view (choice View.every View.name) text).map fun view => { settings with view }
  | .delay => (once settings.delay number text).map fun delay => { settings with delay }
  | .exampleNumber =>
    (once settings.exampleNumber number text).map fun exampleNumber =>
      { settings with exampleNumber }
  | .force => (flagOnce settings.force).map fun force => { settings with force }
  | .help => .error .helpRequested
  | .version => .error .versionRequested

end Settings

/-! ## Commands and their parameters -/

/-- The part of a command line before the command, or a command. -/
inductive Scope where
  | global
  | analyze
  | sample
  | list
  | init
  deriving DecidableEq

namespace Scope

def ofCommandName? : String → Option Scope
  | "analyze" => some analyze
  | "sample" => some sample
  | "list" => some list
  | "init" => some init
  | _ => none

/-- The parameter that stands after two hyphens under this name. -/
def long? (scope : Scope) (name : String) : Option Parameter :=
  match name, scope with
  | "color", _ => some .color
  | "config", _ => some .config
  | "help", _ => some .help
  | "version", global => some .version
  | "sample", analyze => some .sample
  | "format", analyze => some .format
  | "view", analyze => some .view
  | "delay-ms", analyze => some .delay
  | "example", analyze => some .exampleNumber
  | "format", list => some .format
  | "force", init => some .force
  | _, _ => none

/-- The parameter that stands after one hyphen under this letter. -/
def short? (scope : Scope) (letter : Char) : Option Parameter :=
  match letter, scope with
  | 'h', _ => some .help
  | 'V', global => some .version
  | 'f', analyze => some .format
  | 'f', list => some .format
  | _, _ => none

/-- The parameter that an argument without hyphens is, if there can be one. -/
def positional? : Scope → Option Parameter
  | analyze => some .file
  | _ => none

/-- The command that the settings make up. -/
def command? (scope : Scope) (settings : Settings) : Option Command :=
  match scope with
  | global => none
  | analyze =>
    some (.analyze
      { file := settings.file
        sample := settings.sample
        format := settings.format
        view := settings.view
        delay := settings.delay
        exampleNumber := settings.exampleNumber })
  | sample => some .sample
  | list => some (.list settings.format)
  | init => some (.init settings.force)

end Scope
end CommandLine
end ScriptReview
