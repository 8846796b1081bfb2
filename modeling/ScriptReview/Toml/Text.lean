import ScriptReview.Text.Reader

/-!
Space, comments and strings of TOML.

A line ends with a line feed or with a carriage return and a line feed. A carriage return by itself
is not allowed anywhere.
-/

namespace ScriptReview
namespace Toml

open Text

def isSpace (c : Char) : Bool := c == ' ' || c == '\t'

def skipSpace (text : List Char) : List Char := text.dropWhile isSpace

/-- A character that a comment or a literal string may hold. -/
def isShown (c : Char) : Bool :=
  c == '\t' || (0x20 ≤ c.toNat && c.toNat ≠ 0x7F)

/-! ## Ends of lines -/

/-- The end of a line. -/
def newline : Reader Unit
  | '\n' :: rest => some ((), rest)
  | '\r' :: '\n' :: rest => some ((), rest)
  | _ => none

/-- The rest of the text after a comment, if one begins here. -/
def skipComment : List Char → List Char
  | '#' :: rest => rest.dropWhile isShown
  | text => text

/-- What may follow at the end of an expression: space, a comment, and the end of the line or of the
text. -/
def lineEnd : Reader Unit := fun text =>
  match skipComment (skipSpace text) with
  | [] => some ((), [])
  | rest => newline rest

/-- The rest of the text after space, comments and ends of lines, as they may stand before the next
token of an array. The first argument says whether a comment has begun. -/
def skipBlanksFrom : Bool → List Char → Option (List Char)
  | _, [] => some []
  | _, '\n' :: rest => skipBlanksFrom false rest
  | _, '\r' :: '\n' :: rest => skipBlanksFrom false rest
  | true, c :: rest => if isShown c then skipBlanksFrom true rest else none
  | false, c :: rest =>
    if c = '#' then skipBlanksFrom true rest
    else if isSpace c then skipBlanksFrom false rest
    else some (c :: rest)

/-- Space, comments and lines before the next token of an array. -/
def skipBlanks (text : List Char) : Option (List Char) :=
  skipBlanksFrom false text

/-! ## Strings on one line -/

/-- A character that a basic string may hold without a backslash. -/
def isPlain (c : Char) : Bool := isShown c && c ≠ '"' && c ≠ '\\'

/-- A character by its code point in so many hexadecimal digits. -/
def codeEscape (count : Nat) : Reader Char := fun text => do
  let (digits, rest) ← Reader.exactly (isDigitIn 16) count text
  let found ← charOfCode? (numeral 16 digits)
  some (found, rest)

/-- The character that a letter after a backslash stands for. -/
def escaped? : Char → Option Char
  | 'b' => some '\x08'
  | 't' => some '\t'
  | 'n' => some '\n'
  | 'f' => some '\x0c'
  | 'r' => some '\r'
  | '"' => some '"'
  | '\\' => some '\\'
  | _ => none

/-- What a backslash and the characters after it stand for: a character, and how many characters
after the backslash it takes. -/
def escape? (text : List Char) : Option (Char × Nat) :=
  match text with
  | 'u' :: rest => (codeEscape 4 rest).map fun (found, _) => (found, 5)
  | 'U' :: rest => (codeEscape 8 rest).map fun (found, _) => (found, 9)
  | letter :: _ => (escaped? letter).map fun found => (found, 1)
  | [] => none

/-- A basic string up to its closing quote. The first argument counts the characters that belong to
an escape already understood. -/
def basicBody : Nat → Reader (List Char)
  | _, [] => none
  | taken + 1, _ :: rest => basicBody taken rest
  | 0, '"' :: rest => some ([], rest)
  | 0, '\\' :: rest => do
    let (found, length) ← escape? rest
    let (more, rest) ← basicBody length rest
    some (found :: more, rest)
  | 0, c :: rest =>
    if isPlain c then do
      let (more, rest) ← basicBody 0 rest
      some (c :: more, rest)
    else none

/-- A literal string up to its closing quote. It has no escapes. -/
def literalBody (text : List Char) : Option (List Char × List Char) :=
  match Reader.span (fun c => isShown c && c ≠ '\'') text with
  | (found, '\'' :: rest) => some (found, rest)
  | _ => none

/-! ## Strings over several lines -/

/-- The text without one end of a line at its front. -/
def dropNewline (text : List Char) : List Char :=
  match newline text with
  | some (_, rest) => rest
  | none => text

/-- Three quotes end a string of several lines. Up to two more before them belong to the string. -/
def closing (quote : Char) (text : List Char) : List Char × List Char :=
  match text with
  | a :: b :: rest =>
    if a = quote && b = quote then ([quote, quote], rest)
    else if a = quote then ([quote], b :: rest)
    else ([], a :: b :: rest)
  | [a] => if a = quote then ([quote], []) else ([], [a])
  | [] => ([], [])

/-- Does a line end here, but for space? Then the backslash before it joins the lines. -/
def joinsLines (text : List Char) : Bool :=
  (newline (skipSpace text)).isSome

/-- How the next character of a string of several lines is to be taken. -/
inductive Mode where
  | plain
  /-- So many characters belong to an escape already understood. -/
  | taken (count : Nat)
  /-- Space and ends of lines are left out, after a backslash at the end of a line. -/
  | joining

/-- A basic string of several lines up to its closing quotes. -/
def basicLines : Mode → Reader (List Char)
  | _, [] => none
  | .taken (count + 1), _ :: rest => basicLines (.taken count) rest
  | _, '"' :: '"' :: '"' :: rest =>
    let (found, rest) := closing '"' rest
    some (found, rest)
  | mode, '\r' :: '\n' :: rest =>
    match mode with
    | .joining => basicLines .joining rest
    | _ => do
      let (more, rest) ← basicLines .plain rest
      some ('\n' :: more, rest)
  | mode, c :: rest =>
    match mode, c with
    | .joining, ' ' => basicLines .joining rest
    | .joining, '\t' => basicLines .joining rest
    | .joining, '\n' => basicLines .joining rest
    | _, '\\' =>
      if joinsLines rest then basicLines .joining rest
      else do
        let (found, length) ← escape? rest
        let (more, rest) ← basicLines (.taken length) rest
        some (found :: more, rest)
    | _, c =>
      if isPlain c || c = '\n' || c = '"' then do
        let (more, rest) ← basicLines .plain rest
        some (c :: more, rest)
      else none

/-- A literal string of several lines up to its closing quotes. -/
def literalLines : Reader (List Char)
  | [] => none
  | '\'' :: '\'' :: '\'' :: rest =>
    let (found, rest) := closing '\'' rest
    some (found, rest)
  | '\r' :: '\n' :: rest => do
    let (more, rest) ← literalLines rest
    some ('\n' :: more, rest)
  | c :: rest =>
    if isShown c || c = '\n' then do
      let (more, rest) ← literalLines rest
      some (c :: more, rest)
    else none

/-! ## All strings -/

/-- A string on one line, as it may also stand for a key. -/
def shortString : Reader (List Char)
  | '"' :: rest => basicBody 0 rest
  | '\'' :: rest => literalBody rest
  | _ => none

/-- A string of any kind. -/
def anyString : Reader (List Char)
  | '"' :: '"' :: '"' :: rest => basicLines .plain (dropNewline rest)
  | '\'' :: '\'' :: '\'' :: rest => literalLines (dropNewline rest)
  | text => shortString text

end Toml
end ScriptReview
