import ScriptReview.Config.Basic

/-!
The configuration file that a user can start from.
-/

namespace ScriptReview
namespace Config

/-- The lines of the template, with a comment for each thing to change. -/
def templateLines : List String :=
  ["[jsreview]",
    "version = \"1\"",
    "",
    "[analysis]",
    "# Delay before each report is shown, in milliseconds",
    "simulated_latency_ms = 0",
    "",
    "[rules]",
    "# All rules are enabled by default",
    "# Disable a rule: rule-name = false",
    "# var-usage = true",
    "# loose-equality = true",
    "# missing-semicolon = true",
    "# array-methods = true",
    "# modern-declarations = true",
    "",
    "[output]",
    "format = \"human\"",
    "color = \"auto\"",
    "view = \"all\""]

/-- A file that says the same as no file at all. -/
def template : String := String.join (templateLines.map (· ++ "\n"))

end Config
end ScriptReview
