import ScriptReview.Rule.Line
import ScriptReview.Rule.Template

/-!
The rules and templates that come with the program.

They test for fixed pieces of text and do not tokenize, so that words inside strings and comments
count too.
-/

namespace ScriptReview
namespace Builtin

/-- Does the text hold the piece? -/
def holds (text : List Char) (piece : String) : Bool :=
  Text.occurs piece.toList text

/-! ## Rules -/

def varUsage : LineRule where
  id := ⟨"var-usage", by decide⟩
  description := "Flags lines containing `var `"
  kind := .warning
  severity := .medium
  message := "Use \"let\" or \"const\" instead of \"var\""
  flags line := holds line "var "

/-- A line with both comparisons is let pass. The loose one never appears inside the strict one,
since it has a space where the strict one has its third sign. -/
def looseEquality : LineRule where
  id := ⟨"loose-equality", by decide⟩
  description := "Flags ` == ` on lines without ` === `"
  kind := .error
  severity := .high
  message := "Use strict equality (===) instead of loose equality (==)"
  flags line := holds line " == " && !holds line " === "

/-- The characters that may end a line with a `return`. -/
def closers : List Char := [';', '\x7b', '\x7d']

def endsClosed (line : List Char) : Bool :=
  line.getLast?.any closers.contains

/-- A line with a comment sign is let pass, because the comment may hide where the code ends. -/
def missingSemicolon : LineRule where
  id := ⟨"missing-semicolon", by decide⟩
  description := "Flags `return` statements without a trailing semicolon"
  kind := .warning
  severity := .low
  message := "Missing semicolon"
  flags line :=
    !(Text.trim line).isEmpty && !endsClosed (Text.trim line) && !holds line "//" &&
      holds line "return "

/-- The rules in the order in which they look at a line. -/
def lineRules : List LineRule := [varUsage, looseEquality, missingSemicolon]

/-! ## Templates -/

def arrayMethods : Template where
  name := "array-methods"
  trigger := "for ("
  suggestion :=
    { category := "Modern JavaScript"
      title := "Use Array Methods"
      description := "Consider using forEach, map, or reduce instead of traditional for loops"
      exampleCode :=
        "\n".intercalate
          ["// Instead of:",
            "for (let i = 0; i < items.length; i++) \x7b",
            "  total += items[i].price;",
            "\x7d",
            "",
            "// Use:",
            "const total = items.reduce((sum, item) => sum + item.price, 0);"] }

def modernDeclarations : Template where
  name := "modern-declarations"
  trigger := "var "
  suggestion :=
    { category := "ES6+"
      title := "Use Modern Variable Declarations"
      description := "Replace var with let or const for better scoping"
      exampleCode :=
        "\n".intercalate
          ["// Instead of:",
            "var total = 0;",
            "",
            "// Use:",
            "let total = 0; // or const if value doesn't change"] }

/-- The templates in the order in which their suggestions appear. -/
def templates : List Template := [arrayMethods, modernDeclarations]

end Builtin
end ScriptReview
