import ScriptReview.Registry.Toggles
import ScriptReview.Report.Basic
import ScriptReview.Schema.Mismatch

/-!
Configurations.
-/

namespace ScriptReview

/-- How results are written. -/
inductive OutputFormat where
  /-- For people. -/
  | human
  /-- One JSON object on each line. -/
  | jsonl
  deriving DecidableEq

namespace OutputFormat

def all : List OutputFormat := [human, jsonl]

def name : OutputFormat → String
  | human => "human"
  | jsonl => "jsonl"

end OutputFormat

/-- Whether results are colored. -/
inductive ColorChoice where
  /-- As the environment says. -/
  | auto
  | always
  | never
  deriving DecidableEq

namespace ColorChoice

def all : List ColorChoice := [auto, always, never]

def name : ColorChoice → String
  | auto => "auto"
  | always => "always"
  | never => "never"

end ColorChoice

/-- How and in which parts results are shown. -/
structure OutputConfig where
  format : OutputFormat
  color : ColorChoice
  view : View
  deriving DecidableEq

def OutputConfig.default : OutputConfig := ⟨.human, .auto, .all⟩

/-- What a configuration file can settle. The version that it names is checked and not kept. -/
structure Config where
  /-- Milliseconds to wait before a report is shown. -/
  latency : Nat
  rules : Toggles
  output : OutputConfig
  deriving DecidableEq

/-- Why a configuration is refused. -/
inductive ConfigError where
  /-- The text is not a document. -/
  | malformed
  /-- A value does not fit. -/
  | mismatch (cause : Schema.Mismatch)
  | unsupportedVersion (version : String)
  deriving DecidableEq

namespace Config

/-- The configuration that holds where there is no file. -/
def default : Config := ⟨0, .empty, .default⟩

/-- The version that a configuration has to name. -/
def supportedVersion : String := "1"

/-- The name of the file in the working directory that is used when it is there. -/
def fileName : String := "jsreview.toml"

end Config

namespace ConfigError

/-- Is the document itself at fault, rather than the version that it names? -/
def isInvalid : ConfigError → Bool
  | malformed => true
  | mismatch _ => true
  | unsupportedVersion _ => false

/-- The message on a refused configuration. Where a document breaks off and why is for a TOML reader
to say, in words of its own that are no part of this library: the words for `malformed` only stand
in for them. The place of a value that does not fit is left out for the same reason. -/
def message : ConfigError → String
  | malformed => "Invalid configuration syntax: malformed document"
  | mismatch cause => "Invalid configuration syntax: " ++ cause.message
  | unsupportedVersion version =>
    "Unsupported configuration version '" ++ version ++ "'. Expected '" ++
      Config.supportedVersion ++ "'"

end ConfigError
end ScriptReview
