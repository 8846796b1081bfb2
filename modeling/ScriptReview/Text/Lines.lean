/-!
Lines of a text.

A line feed ends a line, and what follows the last line feed is a line too. A text therefore has one
line more than it has line feeds, and is never without a line. Text under examination is a list of
characters throughout; text that is stored or shown is a `String`.
-/

namespace ScriptReview
namespace Text

/-- The lines of a text, without the line feeds between them. -/
def lines (text : List Char) : List (List Char) :=
  text.splitOn '\n'

theorem lines_cons (c : Char) (text : List Char) :
    lines (c :: text) =
      if c = '\n' then [] :: lines text else (lines text).modifyHead (List.cons c) := by
  simp [lines, List.splitOn, List.splitOnP_cons_eq_if_modifyHead]

/-- A line without the carriage return at its end, if it has one. -/
def dropCarriageReturn (line : List Char) : List Char :=
  if line.getLast? = some '\r' then line.dropLast else line

/-- Lines as a terminal shows them. A line feed takes a carriage return right before it along, and
where nothing follows the last line feed there is no further line. -/
def displayLines (text : List Char) : List (List Char) :=
  let ended := (lines text).dropLast.map dropCarriageReturn
  match (lines text).getLast? with
  | some (c :: rest) => ended ++ [c :: rest]
  | _ => ended

end Text
end ScriptReview
