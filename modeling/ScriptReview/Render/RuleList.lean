import ScriptReview.Registry.Basic
import ScriptReview.Render.Records

/-!
Lists of rules.
-/

namespace ScriptReview

/-- What a rule looks at, and so what it produces. -/
inductive RuleSource where
  /-- Single lines: the rule raises issues. -/
  | line
  /-- The whole text: the rule makes a suggestion. -/
  | suggestion
  deriving DecidableEq

def RuleSource.name : RuleSource → String
  | line => "line"
  | suggestion => "suggestion"

/-- What a list says about one rule. -/
structure RuleEntry where
  ruleId : String
  description : String
  source : RuleSource
  /-- The severity of its issues, for a rule that raises issues. -/
  severity : Option String
  deriving DecidableEq

namespace RuleEntry

def ofLineRule (rule : LineRule) : RuleEntry where
  ruleId := rule.id.name
  description := rule.description
  source := .line
  severity := some rule.severity.name

def ofTemplate (template : Template) : RuleEntry where
  ruleId := template.name
  description := template.suggestion.title ++ " (triggered by `" ++ template.trigger ++ "`)"
  source := .suggestion
  severity := none

/-- An entry for people, with an empty line after it. -/
def paragraph (entry : RuleEntry) : String :=
  entry.ruleId ++ " (" ++ entry.source.name ++ ")\n  Description: " ++ entry.description ++ "\n" ++
    (match entry.severity with
    | some severity => "  Severity: " ++ severity ++ "\n"
    | none => "") ++ "\n"

/-- An entry for programs. There is no field for a severity that is not there. -/
def record (entry : RuleEntry) : Json :=
  .object
    ([("rule_id", .string entry.ruleId), ("source", .string entry.source.name),
        ("description", .string entry.description)] ++
      match entry.severity with
      | some severity => [("severity", .string severity)]
      | none => [])

/-- A list for people. -/
def listText (entries : List RuleEntry) : String :=
  "Rules (" ++ toString entries.length ++ " enabled):\n\n" ++
    String.join (entries.map paragraph)

/-- A list for programs, one JSON object on each line. -/
def jsonLines (entries : List RuleEntry) : String :=
  Json.renderLines (entries.map record)

end RuleEntry

/-- An entry for each rule and each template, in the order in which a scan uses them. -/
def Registry.entries (registry : Registry) : List RuleEntry :=
  registry.lineRules.map RuleEntry.ofLineRule ++ registry.templates.map RuleEntry.ofTemplate

end ScriptReview
