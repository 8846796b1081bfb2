import ScriptReview.Toml.Number

/-!
Documents of TOML as they are written.

A document is a list of entries, cut into sections by headers. Whether the sections fit together is
another matter, but the entries of an inline table have to, and so their table is built here.
-/

namespace ScriptReview
namespace Toml

open Text

/-! ## Tables under construction -/

/-- How a table came to be. -/
inductive Origin where
  /-- It has a header of its own, or it is the document. -/
  | header
  /-- A header of a table inside it names it. -/
  | implied
  /-- A dotted key names it. -/
  | dotted
  deriving DecidableEq

/-- A part of a document under construction. -/
inductive Node where
  | leaf (value : Toml)
  | table (origin : Origin) (entries : List (String × Node))
  | series (tables : List (List (String × Node)))

abbrev Entries := List (String × Node)

namespace Entries

def find? (entries : Entries) (key : String) : Option Node :=
  entries.lookup key

/-- Put another part in the place of one that is there. -/
def replace (entries : Entries) (key : String) (node : Node) : Entries :=
  entries.map fun entry => if entry.1 == key then (key, node) else entry

/-- Add a part at the end. -/
def push (entries : Entries) (key : String) (node : Node) : Entries :=
  entries ++ [(key, node)]

def erase (entries : Entries) (key : String) : Entries :=
  entries.filter fun entry => entry.1 != key

/-- Change the table at the end of a path. Tables on the way that do not exist are created. A list
of tables stands for its last table. A dotted key must not reach into a table that has a header of
its own. -/
def update (isDotted : Bool) (change : Origin → Entries → Option Entries) :
    List String → Origin → Entries → Option Entries
  | [], origin, entries => change origin entries
  | key :: path, _, entries =>
    match find? entries key with
    | none => do
      let origin := if isDotted then Origin.dotted else Origin.implied
      let created ← update isDotted change path origin []
      some (push entries key (.table origin created))
    | some (.leaf _) => none
    | some (.series tables) => do
      let last ← tables.getLast?
      let changed ← update isDotted change path .header last
      some (replace entries key (.series (tables.dropLast ++ [changed])))
    | some (.table origin inner) =>
      if isDotted && origin = .header then none
      else do
        let changed ← update isDotted change path origin inner
        some (replace entries key (.table origin changed))

/-- Add a value under a key that is new. A key without dots must not add to a table that dotted keys
created, and a dotted key must not add to any other. -/
def insertValue (path : List String) (key : String) (value : Toml) (entries : Entries) :
    Option Entries :=
  update true
    (fun origin entries =>
      if decide (origin = .dotted) == path.isEmpty then none
      else if (find? entries key).isSome then none
      else some (push entries key (.leaf value)))
    path .header entries

end Entries

mutual

/-- The finished value. -/
def Node.toToml : Node → Toml
  | .leaf value => value
  | .table _ entries => .table (Node.entriesToToml entries)
  | .series tables => .series (Node.tablesToToml tables)

def Node.entriesToToml : List (String × Node) → List (String × Toml)
  | [] => []
  | (key, node) :: more => (key, node.toToml) :: Node.entriesToToml more

def Node.tablesToToml : List (List (String × Node)) → List (List (String × Toml))
  | [] => []
  | entries :: more => Node.entriesToToml entries :: Node.tablesToToml more

end

/-! ## Keys -/

/-- A key, of one part or of several parts with dots between them. -/
structure Key where
  /-- All parts but the last. -/
  path : List String
  last : String

/-- A value under a key. -/
structure Entry where
  key : Key
  value : Toml

namespace Entries

/-- Add the entries one after the other. -/
def insertAll (entries : Entries) (added : List Entry) : Option Entries :=
  added.foldlM (fun entries entry => insertValue entry.key.path entry.key.last entry.value entries)
    entries

end Entries

/-- Keys have fewer parts than this, and values are nested less deep. -/
def nestingLimit : Nat := 80

/-- A character that a key may hold without quotes. -/
def isKeyChar (c : Char) : Bool := c.isAlphanum || c == '-' || c == '_'

def bareKey (text : List Char) : Option (List Char × List Char) :=
  match Reader.span isKeyChar text with
  | ([], _) => none
  | found => some found

/-- A part of a key with the space around it. -/
def keyPart : Reader String := fun text => do
  let (found, rest) ← (match skipSpace text with
    | '"' :: rest => shortString ('"' :: rest)
    | '\'' :: rest => shortString ('\'' :: rest)
    | rest => bareKey rest)
  some (String.ofList found, skipSpace rest)

def key : Reader Key := fun text => do
  let (parts, rest) ← Reader.separated keyPart (Reader.char '.') (nestingLimit - 1) text
  let last ← parts.getLast?
  some (⟨parts.dropLast, last⟩, rest)

/-! ## Values -/

/-- A key, an equals sign and a value. -/
def entry (value : Reader Toml) : Reader Entry := fun text => do
  let (key, rest) ← key text
  let (_, rest) ← Reader.char '=' rest
  let (value, rest) ← value (skipSpace rest)
  some (⟨key, value⟩, rest)

/-- The items of an array after its opening bracket, at most as many as the bound. The last one may
have a comma. -/
def arrayItems (item : Reader Toml) : Nat → Reader (List Toml)
  | 0, _ => none
  | bound + 1, text => do
    match ← skipBlanks text with
    | ']' :: rest => some ([], rest)
    | text =>
      let (first, rest) ← item text
      match ← skipBlanks rest with
      | ',' :: rest =>
        let (more, rest) ← arrayItems item bound rest
        some (first :: more, rest)
      | ']' :: rest => some ([first], rest)
      | _ => none

/-- An inline table after its opening brace. It stays on its line and has no comma at the end. -/
def inlineTable (item : Reader Toml) : Reader Toml := fun text =>
  match skipSpace text with
  | '\x7d' :: rest => some (.table [], rest)
  | text => do
    let separator : Reader Unit := fun rest => Reader.char ',' (skipSpace rest)
    let (entries, rest) ← Reader.separated (entry item) separator text.length text
    let (_, rest) ← Reader.char '\x7d' (skipSpace rest)
    let built ← Entries.insertAll [] entries
    some (.table (Node.entriesToToml built), rest)

/-- A value that holds no other value. -/
def scalar : Reader Toml
  | '"' :: rest =>
    (anyString ('"' :: rest)).map fun (text, rest) => (.string (String.ofList text), rest)
  | '\'' :: rest =>
    (anyString ('\'' :: rest)).map fun (text, rest) => (.string (String.ofList text), rest)
  | 't' :: rest => (Reader.literal "rue".toList rest).map fun (_, rest) => (.boolean true, rest)
  | 'f' :: rest => (Reader.literal "alse".toList rest).map fun (_, rest) => (.boolean false, rest)
  | text => numberOrDate text

/-- A value, in which arrays and inline tables may be nested so deep. -/
def value : Nat → Reader Toml
  | 0, text => scalar text
  | depth + 1, text =>
    match text with
    | '[' :: rest =>
      (arrayItems (value depth) (rest.length + 1) rest).map fun (items, rest) =>
        (.array items, rest)
    | '\x7b' :: rest => inlineTable (value depth) rest
    | text => scalar text

/-! ## Lines -/

/-- A line of a document that says something. -/
inductive Line where
  | tableHeader (key : Key)
  | seriesHeader (key : Key)
  | entry (entry : Entry)

/-- A header after its first bracket. -/
def header : Reader Line
  | '[' :: rest => do
    let (key, rest) ← key rest
    let (_, rest) ← Reader.literal [']', ']'] rest
    some (.seriesHeader key, rest)
  | text => do
    let (key, rest) ← key text
    let (_, rest) ← Reader.char ']' rest
    some (.tableHeader key, rest)

/-- What the line at the front of the text says, if it says anything. -/
def line : Reader (Option Line) := fun text =>
  match skipSpace text with
  | '[' :: rest => (header rest).map fun (found, rest) => (some found, rest)
  | text =>
    match lineEnd text with
    | some _ => some (none, text)
    | none =>
      (entry (value (nestingLimit - 1)) text).map fun (found, rest) => (some (.entry found), rest)

/-- The lines that say something. The bound is on the number of all lines. -/
def linesUpTo : Nat → List Char → Option (List Line)
  | _, [] => some []
  | 0, _ => none
  | bound + 1, text => do
    let (found, rest) ← line text
    let (_, rest) ← lineEnd rest
    let more ← linesUpTo bound rest
    some (found.toList ++ more)

/-- The text without a byte order mark at its front. -/
def dropByteOrderMark : List Char → List Char
  | '\uFEFF' :: rest => rest
  | text => text

/-- The lines of a document that say something. -/
def readLines (text : String) : Option (List Line) :=
  let text := dropByteOrderMark text.toList
  linesUpTo text.length text

end Toml
end ScriptReview
