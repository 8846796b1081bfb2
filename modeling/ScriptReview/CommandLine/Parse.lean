import ScriptReview.CommandLine.Basic

/-!
Reading a command line.

Arguments are read from the left. A value is looked at only when the parameter it belongs to is
settled, which is when the next parameter begins or the command line ends; a value that is attached
to its option is looked at at once. That decides which of several mistakes is reported.
-/

namespace ScriptReview
namespace CommandLine

/-! ## Single arguments -/

/-- An argument by the hyphens at its front. -/
inductive Token where
  /-- Two hyphens and nothing else: only positional arguments follow. -/
  | separator
  /-- A name after two hyphens, with what follows after an equals sign. -/
  | long (name : String) (value : Option String)
  /-- Letters after one hyphen. -/
  | letters (letters : List Char)
  | word (text : String)
  deriving DecidableEq

namespace Token

/-- A name and the text after the first equals sign, if there is one. -/
def splitAtEquals (text : List Char) : String × Option String :=
  let name := String.ofList (text.takeWhile (· ≠ '='))
  match text.dropWhile (· ≠ '=') with
  | _ :: value => (name, some (String.ofList value))
  | [] => (name, none)

def ofString (argument : String) : Token :=
  match argument.toList with
  | ['-', '-'] => separator
  | '-' :: '-' :: text => let (name, value) := splitAtEquals text; long name value
  | '-' :: letter :: rest => letters (letter :: rest)
  | _ => word argument

end Token

/-! ## Parameters one after the other -/

/-- What has been settled, and a parameter that has not, with its value if that has been read. -/
structure Progress where
  settings : Settings
  pending : Option (Parameter × Option String)
  deriving DecidableEq

namespace Progress

def start : Progress := ⟨.empty, none⟩

/-- Settle the parameter that is pending. -/
def settle (progress : Progress) : Except UsageError Settings :=
  match progress.pending with
  | some (parameter, text) => progress.settings.put parameter text
  | none => .ok progress.settings

/-- Is the next argument the value of an option? -/
def awaitsValue (progress : Progress) : Bool :=
  match progress.pending with
  | some (_, none) => true
  | _ => false

/-- Give the option that awaits a value its value. -/
def supply (progress : Progress) (text : String) : Progress :=
  { progress with pending := progress.pending.map fun (parameter, _) => (parameter, some text) }

/-- Begin a parameter. It is settled at once if nothing can follow that belongs to it. -/
def add (progress : Progress) (parameter : Parameter) (attached : Option String) :
    Except UsageError Progress := do
  let settings ← progress.settle
  if parameter.takesValue && attached.isNone then
    return ⟨settings, some (parameter, none)⟩
  else
    return ⟨← settings.put parameter attached, none⟩

/-- An option after two hyphens. -/
def addLong (progress : Progress) (scope : Scope) (name : String) (value : Option String) :
    Except UsageError Progress :=
  match scope.long? name with
  | none => .error .unknownArgument
  | some parameter =>
    if !parameter.takesValue && value.isSome then .error .unexpectedValue
    else progress.add parameter value

/-- The value that is attached to a letter, after an equals sign or without one. -/
def attachedValue : List Char → Option String
  | [] => none
  | '=' :: text => some (String.ofList text)
  | text => some (String.ofList text)

/-- Options after one hyphen. The first that takes a value takes what is left. -/
def addLetters (progress : Progress) (scope : Scope) : List Char → Except UsageError Progress
  | [] => .ok progress
  | letter :: rest =>
    match scope.short? letter with
    | none => .error .unknownArgument
    | some parameter =>
      if parameter.takesValue then progress.add parameter (attachedValue rest)
      else do
        let progress ← progress.add parameter none
        progress.addLetters scope rest

/-- Has the positional argument been read? -/
def hasPositional (progress : Progress) : Bool :=
  progress.settings.file.isSome || progress.pending.any (·.1 == .file)

/-- A positional argument. -/
def addPositional (progress : Progress) (scope : Scope) (text : String) :
    Except UsageError Progress :=
  match scope.positional? with
  | none => .error .unknownArgument
  | some parameter =>
    if progress.hasPositional then .error .unknownArgument
    else do
      return ⟨← progress.settle, some (parameter, some text)⟩

/-- An argument that may be the value of an option. -/
def addToken (progress : Progress) (scope : Scope) : Token → Except UsageError Progress
  | .separator => .ok progress
  | .long name value => progress.addLong scope name value
  | .letters letters => progress.addLetters scope letters
  | .word text =>
    if progress.awaitsValue then .ok (progress.supply text)
    else progress.addPositional scope text

/-- The arguments after a separator. -/
def addPositionals (progress : Progress) (scope : Scope) :
    List String → Except UsageError Progress
  | [] => .ok progress
  | text :: rest => do
    let progress ← progress.addPositional scope text
    progress.addPositionals scope rest

/-- The arguments of a command. -/
def addAll (progress : Progress) (scope : Scope) : List String → Except UsageError Progress
  | [] => .ok progress
  | argument :: rest =>
    match Token.ofString argument with
    | .separator => progress.addPositionals scope rest
    | token => do
      let progress ← progress.addToken scope token
      progress.addAll scope rest

end Progress

/-! ## The whole command line -/

/-- The settings of a command. A file and the sample exclude each other. -/
def readCommand (scope : Scope) (arguments : List String) : Except UsageError Settings := do
  let progress ← Progress.start.addAll scope arguments
  let settings ← progress.settle
  if settings.file.isSome && settings.sample then throw .conflict
  return settings

/-- The answer where no command is named. -/
def withoutCommand (progress : Progress) : Except UsageError Invocation := do
  let settings ← progress.settle
  if settings.color.isNone && settings.config.isNone then throw .nothingRequested
  throw .missingCommand

/-- Help is there for the program and for each command. -/
def helpOn (topics : List String) : UsageError :=
  match topics with
  | [] => .helpRequested
  | [topic] =>
    if (Scope.ofCommandName? topic).isSome || topic == "help" then .helpRequested
    else .unknownCommand
  | _ => .unknownCommand

/-- A command with the options before it and after it, of which those after it count more. -/
def invocation (progress : Progress) (scope : Scope) (arguments : List String) :
    Except UsageError Invocation := do
  let inner ← readCommand scope arguments
  let outer ← progress.settle
  match scope.command? inner with
  | some command =>
    return {
      command
      color := inner.color <|> outer.color
      config := inner.config <|> outer.config }
  | none => throw .missingCommand

/-- After a separator no command can be named any more. -/
def afterSeparator (progress : Progress) : List String → Except UsageError Invocation
  | [] => withoutCommand progress
  | text :: _ =>
    if (Scope.ofCommandName? text).isSome || text == "help" then .error .unknownArgument
    else .error .unknownCommand

/-- The command line from the options before the command on. -/
def readFrom (progress : Progress) : List String → Except UsageError Invocation
  | [] => withoutCommand progress
  | argument :: rest =>
    if progress.awaitsValue then
      match Token.ofString argument with
      | .separator => afterSeparator progress rest
      | token => do
        let progress ← progress.addToken .global token
        readFrom progress rest
    else if argument == "help" then .error (helpOn rest)
    else
      match Scope.ofCommandName? argument with
      | some scope => invocation progress scope rest
      | none =>
        match Token.ofString argument with
        | .separator => afterSeparator progress rest
        | .word _ => .error .unknownCommand
        | token => do
          let progress ← progress.addToken .global token
          readFrom progress rest

/-- The invocation that a command line asks for. -/
def parse (arguments : List String) : Except UsageError Invocation :=
  readFrom .start arguments

end CommandLine
end ScriptReview
