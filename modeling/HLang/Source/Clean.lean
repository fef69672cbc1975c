/-
This file holds the cleaned text of a source file. Its rows are the cleaned lines of the
file that are not empty, and a line map remembers from which line of the file each row
came, so that every later answer can speak of the file as its author sees it.
-/

import HLang.Source.Spacing
import HLang.Text.Lines

namespace HLang

/-- A cleaned text and, for each of its rows, the number of the source line it came from. -/
structure CleanSource where
  text : String
  lineNumbers : List UInt32
deriving DecidableEq

namespace CleanSource

/-- The rows of a cleaned file with the numbers of their source lines, counted from one. -/
def rowsOf (source : List Char) : List (List Char × UInt32) :=
  ((sourceLines source).map cleanLine).zipIdx 1 |>.filter (fun entry => !entry.1.isEmpty)
    |>.map fun entry => (entry.1, UInt32.ofNat entry.2)

/-- Cleans a source file. -/
def ofSource (source : String) : CleanSource :=
  let rows := rowsOf source.toList
  ⟨String.ofList (joinLines (rows.map Prod.fst)), rows.map Prod.snd⟩

/-- Whether nothing was left of the source. -/
def isEmpty (clean : CleanSource) : Bool :=
  clean.text.isEmpty

/-- The number of source lines that were kept. -/
def lineCount (clean : CleanSource) : Nat :=
  clean.lineNumbers.length

/-- The source line of a row, both counted from one. A row that does not exist is given the
last source line that was kept, or its own number if there is none. -/
def sourceLine (clean : CleanSource) (row : UInt32) : UInt32 :=
  match if row = 0 then none else clean.lineNumbers[row.toNat - 1]? with
  | some line => line
  | none => clean.lineNumbers.getLast?.getD row

/-- The cleaned text of a source line, if the line was kept. -/
def sourceLineText (clean : CleanSource) (line : UInt32) : Option String :=
  (clean.lineNumbers.idxOf? line).bind fun index =>
    (splitLines clean.text.toList)[index]?.map String.ofList

end CleanSource

end HLang
