import ScriptReview.CommandLine.Basic

/-!
What the program says about its own use.
-/

namespace ScriptReview
namespace CommandLine

/-- The name and the version of the program. -/
def versionText : String := "jsreview 0.1.0\n"

/-- A line for each command and option. -/
def helpText : String :=
  "\n".intercalate
    ["Review JavaScript source for common issues and modernization hints",
      "",
      "Usage: jsreview [OPTIONS] <COMMAND>",
      "",
      "Commands:",
      "  analyze [FILE]     Analyze JavaScript source and print a report",
      "    --sample         Analyze the built-in sample program",
      "    -f, --format     Output format: human, jsonl",
      "    --view           Report sections to show: all, issues, suggestions, metrics",
      "    --delay-ms       Milliseconds to wait before the report",
      "    --example <N>    Print only the example of suggestion N",
      "  sample             Print the built-in sample program",
      "  list               List all enabled rules",
      "    -f, --format     Output format: human, jsonl",
      "  init               Write a default jsreview.toml",
      "    --force          Overwrite an existing file",
      "  help               Print this message",
      "",
      "Options:",
      "  --color <COLOR>    Output coloring: auto, always, never",
      "  --config <CONFIG>  Configuration file",
      "  -h, --help         Print help",
      "  -V, --version      Print version",
      ""]

namespace UsageError

/-- What is wrong with the command line, in a few words. -/
def reason : UsageError → String
  | helpRequested => "help requested"
  | versionRequested => "version requested"
  | nothingRequested => "no command given"
  | missingCommand => "a command is required"
  | unknownCommand => "unrecognized command"
  | unknownArgument => "unexpected argument"
  | invalidValue => "missing or invalid value"
  | invalidNumber => "invalid number"
  | unexpectedValue => "a flag takes no value"
  | conflict => "arguments cannot be used together"

/-- The text to show. Help stands by itself where it is what was asked for. -/
def message : UsageError → String
  | helpRequested => helpText
  | versionRequested => versionText
  | nothingRequested => helpText
  | other => "error: " ++ other.reason ++ "\n\nFor more information, try '--help'.\n"

end UsageError
end CommandLine
end ScriptReview
