/-
This file cuts a text into lines. Two cuts are needed. `splitLines` cuts at every line feed
and loses nothing, which is how the rows of a cleaned text are addressed; `sourceLines` cuts
a file as its author sees it, where a carriage return before the line feed belongs to the
line end and a final line feed opens no further line.
-/

namespace HLang

/-- The rows between the line feeds of a text; a text with `n` line feeds has `n + 1` rows. -/
def splitLines (text : List Char) : List (List Char) :=
  text.splitOn '\n'

/-- The text whose rows are the given ones, with a line feed between neighbours. -/
def joinLines (rows : List (List Char)) : List Char :=
  ['\n'].intercalate rows

/-- A row without the carriage return it may end with. -/
def dropReturn (row : List Char) : List Char :=
  if row.getLast? = some '\r' then row.dropLast else row

/-- Reads rows as lines of a file: all rows but the last were closed by a line feed, so a
carriage return at their end belongs to the line end; the last one counts only if it holds
something. -/
def linesOfRows : List (List Char) → List (List Char)
  | [] => []
  | [last] => if last.isEmpty then [] else [last]
  | row :: next :: more => dropReturn row :: linesOfRows (next :: more)

/-- The lines of a file. -/
def sourceLines (text : List Char) : List (List Char) :=
  linesOfRows (splitLines text)

end HLang
