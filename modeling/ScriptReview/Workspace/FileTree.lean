/-!
Trees of files.

A path is followed part by part from the root or from the working directory. A part can only be
looked up in a directory, so a path that goes on after a file leads nowhere, even if all that
follows is a slash.
-/

namespace ScriptReview

/-- A file with its contents, or a directory with its entries. -/
inductive FileTree where
  | file (contents : ByteArray)
  | directory (entries : List (String × FileTree))

/-- Why a file cannot be read as text. -/
inductive AccessError where
  | notFound
  | notADirectory
  | isADirectory
  | nameTooLong
  | notText
  /-- Any other reason, in the words of the system. -/
  | other (reason : String)
  deriving DecidableEq

namespace AccessError

def message : AccessError → String
  | notFound => "No such file or directory (os error 2)"
  | notADirectory => "Not a directory (os error 20)"
  | isADirectory => "Is a directory (os error 21)"
  | nameTooLong => "File name too long (os error 36)"
  | notText => "stream did not contain valid UTF-8"
  | other reason => reason

end AccessError

/-- The text that bytes encode. -/
def decodeText (contents : ByteArray) : Except AccessError String :=
  match String.fromUTF8? contents with
  | some text => .ok text
  | none => .error .notText

namespace FileTree

def emptyDirectory : FileTree := directory []

/-- What is found under a name, if this is a directory. -/
def child? (name : String) : FileTree → Option FileTree
  | directory entries => entries.lookup name
  | file _ => none

/-- What is found at the end of a list of names. -/
def at? (tree : FileTree) : List String → Option FileTree
  | [] => some tree
  | name :: names => (tree.child? name).bind fun inner => inner.at? names

/-- Give a name in a directory a new meaning. -/
def setEntry (entries : List (String × FileTree)) (name : String) (tree : FileTree) :
    List (String × FileTree) :=
  if (entries.lookup name).isSome then
    entries.map fun entry => if entry.1 == name then (name, tree) else entry
  else entries ++ [(name, tree)]

/-- Put something at the end of a list of names. Directories on the way are created; nothing is put
below a file. -/
def insert (new : FileTree) : List String → FileTree → FileTree
  | [], _ => new
  | _ :: _, file contents => file contents
  | name :: names, directory entries =>
    let inner := (entries.lookup name).getD emptyDirectory
    directory (setEntry entries name (insert new names inner))

end FileTree

/-- The parts of a path between its slashes. -/
def pathParts (path : String) : List String :=
  (path.toList.splitOn '/').map String.ofList

/-- The longest name that a directory can hold, in bytes. -/
def longestName : Nat := 255

/-- The longest path that is followed at all, in bytes. -/
def longestPath : Nat := 4095

namespace FileTree

/-- Follow one part of a path from a place in the tree, given as the names that lead there. The
parent of the root is the root. -/
def followPart (root : FileTree) (place : List String) (part : String) :
    Except AccessError (List String) :=
  match root.at? place with
  | none => .error .notFound
  | some (file _) => .error .notADirectory
  | some (directory entries) =>
    if part == "" || part == "." then .ok place
    else if part == ".." then .ok place.dropLast
    else if longestName < part.utf8ByteSize then .error .nameTooLong
    else if (entries.lookup part).isSome then .ok (place ++ [part])
    else .error .notFound

end FileTree

/-- All files, and the place of the working directory among them. -/
structure Workspace where
  root : FileTree
  home : List String

namespace Workspace

/-- The place that a path leads to. The length of the whole path is looked at before its parts. -/
def follow (workspace : Workspace) (path : String) : Except AccessError (List String) :=
  if longestPath < path.utf8ByteSize then .error .nameTooLong
  else match pathParts path with
  | [""] => .error .notFound
  | "" :: parts => parts.foldlM workspace.root.followPart []
  | parts => parts.foldlM workspace.root.followPart workspace.home

/-- What a path leads to. -/
def find (workspace : Workspace) (path : String) : Except AccessError FileTree := do
  match workspace.root.at? (← workspace.follow path) with
  | some tree => return tree
  | none => throw .notFound

/-- The contents of the file that a path leads to. -/
def read (workspace : Workspace) (path : String) : Except AccessError ByteArray := do
  match ← workspace.find path with
  | .file contents => return contents
  | .directory _ => throw .isADirectory

/-- Write a file of the working directory. -/
def write (workspace : Workspace) (name : String) (contents : ByteArray) : Workspace :=
  { workspace with root := .insert (.file contents) (workspace.home ++ [name]) workspace.root }

end Workspace
end ScriptReview
