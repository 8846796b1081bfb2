import ScriptReview.CommandLine.Parse
import ScriptReview.Config.Decode
import ScriptReview.Config.Template
import ScriptReview.Registry.Scan
import ScriptReview.Render.Human
import ScriptReview.Render.RuleList
import ScriptReview.Session
import ScriptReview.Workspace.FileTree

/-!
Running a command.

A command sees files only through `Access`, so that the same definitions serve for files on a disk
(`Access.ofFiles`) and for a tree of files (`Workspace.run`). What it does is an `Effect`: text on
two channels, an exit code, and perhaps a new configuration file. A review is an analysis of a
`Session`, which begins it, has its progress shown while the user waits, and finishes it.
-/

namespace ScriptReview

/-- Why a command fails. -/
inductive ReviewError where
  | configUnreadable (cause : AccessError)
  | config (cause : ConfigError)
  | rule (cause : UnknownRule)
  /-- The report has no suggestion with this number. -/
  | noSuchSuggestion (number : Nat)
  | inputUnreadable (cause : AccessError)
  /-- The analysis was begun and ended without a report. -/
  | noReport
  deriving DecidableEq

namespace ReviewError

/-- The message on a failure to read or write. -/
def accessMessage (cause : String) : String := "I/O error: " ++ cause

/-- The message on a configuration that cannot be used. -/
def configMessage (cause : String) : String := "Configuration error: " ++ cause

def message : ReviewError → String
  | configUnreadable cause => configMessage (accessMessage cause.message)
  | config cause => configMessage cause.message
  | rule cause => "Rule error: " ++ cause.message
  | noSuchSuggestion number => "No suggestion #" ++ toString number ++ " in the current report"
  | inputUnreadable cause => accessMessage cause.message
  | noReport => accessMessage "analysis did not produce a report"

/-- The exit code of a failure. A document that is no configuration has a code of its own. -/
def exitCode : ReviewError → Nat
  | config cause => if cause.isInvalid then 3 else 2
  | _ => 2

end ReviewError

namespace CommandLine

/-- What stands under a name. -/
inductive EntryKind where
  | file
  | directory
  deriving DecidableEq

/-- What a command can find out about files. -/
structure Access where
  read : String → Except AccessError ByteArray
  kind? : String → Option EntryKind

namespace Access

/-- What stands under a name that has been read: whatever is neither missing nor a directory counts
as a file. -/
def kindOf? : Except AccessError ByteArray → Option EntryKind
  | .error .notFound => none
  | .error .notADirectory => none
  | .error .isADirectory => some .directory
  | _ => some .file

/-- Access to files that have been read before. No other file is there. -/
def ofFiles (files : List (String × Except AccessError ByteArray)) : Access where
  read path := (files.lookup path).getD (.error .notFound)
  kind? path := kindOf? ((files.lookup path).getD (.error .notFound))

end Access

/-- The variables of the environment that matter. -/
structure Environment where
  term : Option String
  noColor : Option String
  deriving DecidableEq

/-- Does the environment ask for colors? The terminal has to be named and must not be dumb, and the
variable against colors must not be set, not even to nothing. -/
def Environment.allowsColor (environment : Environment) : Bool :=
  match environment.term with
  | none => false
  | some name => name != "dumb" && environment.noColor.isNone

/-- What a command writes and how it ends. -/
structure Outcome where
  exitCode : Nat
  /-- What is said at once, while there is still something to wait for. -/
  progress : String
  /-- Milliseconds to wait before anything else is shown. -/
  delay : Nat
  /-- What is said after that, beside the output. -/
  remarks : String
  output : String
  deriving DecidableEq

namespace Outcome

/-- All that is said beside the output. -/
def diagnostics (outcome : Outcome) : String := outcome.progress ++ outcome.remarks

/-- A command that writes its result and succeeds. -/
def success (output : String) : Outcome where
  exitCode := 0
  progress := ""
  delay := 0
  remarks := ""
  output := output

/-- A command that has nothing to do. -/
def warning (text : String) : Outcome where
  exitCode := 0
  progress := ""
  delay := 0
  remarks := "Warning: " ++ text ++ "\n"
  output := ""

def failure (exitCode : Nat) (message : String) : Outcome where
  exitCode := exitCode
  progress := ""
  delay := 0
  remarks := "Error: " ++ message ++ "\n"
  output := ""

def ofResult : Except ReviewError Outcome → Outcome
  | .ok outcome => outcome
  | .error error => failure error.exitCode error.message

end Outcome

/-! ## Configuration -/

/-- The configuration of a file. -/
def readConfig (access : Access) (path : String) : Except ReviewError Config := do
  let text ← ((access.read path).bind decodeText).mapError .configUnreadable
  (Config.parse text).mapError .config

/-- The configuration to use. A path that is given has to be there; without one the file in the
working directory is used if it is there. -/
def loadConfig (access : Access) : Option String → Except ReviewError Config
  | some path => readConfig access path
  | none =>
    if (access.kind? Config.fileName).isSome then readConfig access Config.fileName
    else .ok Config.default

def configuredRegistry (config : Config) : Except ReviewError Registry :=
  (Registry.ofToggles config.rules).mapError .rule

/-! ## Analysis -/

/-- Does the path stand for standard input? A hyphen does, also with slashes and dots after it. -/
def isStandardInput (path : String) : Bool :=
  match pathParts path with
  | "-" :: rest => rest.all fun part => part == "" || part == "."
  | _ => false

/-- Where the text to be reviewed comes from. -/
inductive Source where
  | sample
  | standardInput
  | file (path : String)
  deriving DecidableEq

def AnalyzeArguments.source (arguments : AnalyzeArguments) : Source :=
  if arguments.sample then .sample
  else
    match arguments.file with
    | none => .standardInput
    | some path => if isStandardInput path then .standardInput else .file path

/-- The name and the text of what is to be reviewed. -/
def Source.read (access : Access) (input : ByteArray) :
    Source → Except AccessError (String × String)
  | sample => .ok ("sample", Session.sampleProgram)
  | standardInput => (decodeText input).map fun code => ("<stdin>", code)
  | file path => ((access.read path).bind decodeText).map fun code => (path, code)

/-- The example of the suggestion with the number, counted from one, in the report of a session. -/
def exampleWithNumber (session : Session) (number : Nat) : Except ReviewError String :=
  match number with
  | 0 => .error (.noSuchSuggestion 0)
  | index + 1 =>
    match session.copyExample index with
    | some text => .ok text
    | none => .error (.noSuchSuggestion (index + 1))

/-- Write the example alone. -/
def exampleOutcome (session : Session) (number : Nat) : Outcome :=
  let outcome := (exampleWithNumber session number).map fun text => Outcome.success (text ++ "\n")
  { Outcome.ofResult outcome with delay := session.latency }

/-- The result of a review of code that is not blank. It fails a check if a line is flagged. -/
def reviewOutcome (name : String) (report : Report) (output : OutputConfig) (colored : Bool)
    (delay : Nat) : Outcome where
  exitCode := if report.isClean then 0 else 1
  progress :=
    match output.format with
    | .human => "Analyzing " ++ name ++ "...\n"
    | .jsonl => ""
  delay := delay
  remarks :=
    match output.format with
    | .human => "\n"
    | .jsonl => ""
  output :=
    match output.format with
    | .human => (report.document output.view).render colored
    | .jsonl => report.jsonLines output.view

/-- What the command line says goes before what the configuration says. -/
def effectiveOutput (config : Config) (arguments : AnalyzeArguments) (color : Option ColorChoice) :
    OutputConfig where
  format := arguments.format.getD config.output.format
  color := color.getD config.output.color
  view := arguments.view.getD config.output.view

/-- Are results colored? -/
def isColored (environment : Environment) : ColorChoice → Bool
  | .auto => environment.allowsColor
  | .always => true
  | .never => false

/-- A session with the code that is to be reviewed. -/
def sessionOn (registry : Registry) (output : OutputConfig) (latency : Nat) (code : String) :
    Session :=
  ((Session.new registry latency).setView output.view).setCode code

/-- Finish the analysis that a session has begun, and show what is asked for: one example, or the
report under the view of the session. -/
def conclude (session : Session) (name : String) (exampleNumber : Option Nat)
    (output : OutputConfig) (colored : Bool) : Except ReviewError Outcome :=
  match session.finish with
  | (_, none) => .error .noReport
  | (session, some report) =>
    match exampleNumber with
    | some number => .ok (exampleOutcome session number)
    | none =>
      .ok (reviewOutcome name report { output with view := session.view } colored session.latency)

def analyze (access : Access) (input : ByteArray) (environment : Environment)
    (arguments : AnalyzeArguments) (color : Option ColorChoice) (configPath : Option String) :
    Except ReviewError Outcome := do
  let config ← loadConfig access configPath
  let registry ← configuredRegistry config
  let output := effectiveOutput config arguments color
  let latency := arguments.delay.getD config.latency
  let (name, code) ← (arguments.source.read access input).mapError .inputUnreadable
  match (sessionOn registry output latency code).begin with
  | (_, false) => return .warning "Nothing to analyze: input is empty."
  | (session, true) =>
    conclude session name arguments.exampleNumber output (isColored environment output.color)

/-! ## Lists of rules -/

def listRules (access : Access) (format : Option OutputFormat) (configPath : Option String) :
    Except ReviewError Outcome := do
  let config ← loadConfig access configPath
  let registry ← configuredRegistry config
  let entries := registry.entries
  match format.getD config.output.format with
  | .human =>
    if entries.isEmpty then return .success "No rules are enabled.\n"
    return .success (RuleEntry.listText entries)
  | .jsonl => return .success (RuleEntry.jsonLines entries)

/-! ## New configuration files -/

/-- What a command does. -/
structure Effect where
  outcome : Outcome
  /-- Does the file of the working directory become the template? -/
  writesConfig : Bool
  deriving DecidableEq

/-- A file that is there is left alone unless it may be overwritten, and a directory always is. -/
def writeTemplate (access : Access) (force : Bool) : Effect :=
  match access.kind? Config.fileName with
  | none => ⟨.success ("Created " ++ Config.fileName ++ ".\n"), true⟩
  | some .directory =>
    ⟨.failure 2 ("Path error: Path '" ++ Config.fileName ++ "' exists but is a directory"), false⟩
  | some .file =>
    if force then ⟨.success ("Overwrote " ++ Config.fileName ++ ".\n"), true⟩
    else ⟨.warning (Config.fileName ++ " already exists. Use --force to overwrite."), false⟩

/-! ## All commands -/

/-- What a run of the program is given besides files. -/
structure Request where
  arguments : List String
  input : ByteArray
  environment : Environment

namespace Invocation

/-- Is standard input needed? -/
def readsInput (invocation : Invocation) : Bool :=
  match invocation.command with
  | .analyze arguments => arguments.source == .standardInput
  | _ => false

/-- The file of the configuration that counts. -/
def configPath (invocation : Invocation) : String :=
  invocation.config.getD Config.fileName

/-- The files that are looked at. -/
def paths (invocation : Invocation) : List String :=
  match invocation.command with
  | .analyze arguments =>
    match arguments.source with
    | .file path => [invocation.configPath, path]
    | _ => [invocation.configPath]
  | .sample => []
  | .list _ => [invocation.configPath]
  | .init _ => [Config.fileName]

end Invocation

/-- What an invocation does. -/
def perform (access : Access) (input : ByteArray) (environment : Environment)
    (invocation : Invocation) : Effect :=
  match invocation.command with
  | .analyze arguments =>
    ⟨.ofResult (analyze access input environment arguments invocation.color invocation.config),
      false⟩
  | .sample => ⟨.success (Session.sampleProgram ++ "\n"), false⟩
  | .list format => ⟨.ofResult (listRules access format invocation.config), false⟩
  | .init force => writeTemplate access force

end CommandLine

namespace Workspace

open CommandLine

/-- The files as a command sees them. -/
def access (workspace : Workspace) : Access where
  read := workspace.read
  kind? path :=
    match workspace.find path with
    | .ok (.file _) => some .file
    | .ok (.directory _) => some .directory
    | .error _ => none

/-- Run the program once. Only a command line that can be understood has an outcome. -/
def run (workspace : Workspace) (request : Request) : Workspace × Except UsageError Outcome :=
  match CommandLine.parse request.arguments with
  | .error error => (workspace, .error error)
  | .ok invocation =>
    let effect := perform workspace.access request.input request.environment invocation
    let after :=
      if effect.writesConfig then workspace.write Config.fileName Config.template.toUTF8
      else workspace
    (after, .ok effect.outcome)

/-- Run the program several times, keeping the files. -/
def runAll (workspace : Workspace) (requests : List Request) : Workspace :=
  requests.foldl (fun current request => (current.run request).1) workspace

end Workspace
end ScriptReview
