/-!
Text with styled spans.

A document says which of its parts stand out and how. It becomes text either without any style or
with escape sequences that a terminal understands.
-/

namespace ScriptReview

inductive Color where
  | red
  | green
  | yellow
  | blue
  | cyan
  deriving DecidableEq

namespace Color

/-- The digit that stands for the color in an escape sequence. -/
def digit : Color → Char
  | red => '1'
  | green => '2'
  | yellow => '3'
  | blue => '4'
  | cyan => '6'

end Color

structure Style where
  bold : Bool
  color : Option Color
  deriving DecidableEq

/-- A piece of text, in the default style if it has none of its own. -/
structure Span where
  style : Option Style
  text : String
  deriving DecidableEq

namespace Span

def plain (text : String) : Span := ⟨none, text⟩

def bold (text : String) : Span := ⟨some ⟨true, none⟩, text⟩

def colored (color : Color) (text : String) : Span := ⟨some ⟨false, some color⟩, text⟩

def boldColored (color : Color) (text : String) : Span := ⟨some ⟨true, some color⟩, text⟩

end Span

/-- The escape character. -/
def escape : Char := '\x1b'

/-- The sequence that goes back to the default style. -/
def Style.reset : List Char := [escape, '[', '0', 'm']

/-- The sequences that turn a style on, whatever was on before. -/
def Style.start (style : Style) : List Char :=
  reset ++ (if style.bold then [escape, '[', '1', 'm'] else []) ++
    match style.color with
    | some color => [escape, '[', '3', color.digit, 'm']
    | none => []

abbrev Document := List Span

namespace Document

/-- The text alone. -/
def plainText (document : Document) : String :=
  String.join (document.map (·.text))

/-- A span for a terminal. A style ends with its span. -/
def spanForTerminal (span : Span) : List Char :=
  match span.style with
  | none => span.text.toList
  | some style => style.start ++ span.text.toList ++ Style.reset

/-- The text with escape sequences. -/
def forTerminal (document : Document) : String :=
  String.ofList (document.flatMap spanForTerminal)

/-- The text with or without styles. -/
def render (styled : Bool) (document : Document) : String :=
  if styled then document.forTerminal else document.plainText

end Document
end ScriptReview
