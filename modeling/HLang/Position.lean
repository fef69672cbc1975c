/-
This file fixes where things stand in an HL program. A position names a line of the file as
its author wrote it and a column of that line after its spaces were removed, because the
cleaned line is what the scanner reads and what a diagnostic shows.
-/

namespace HLang

/-! ### Positions and spans -/

/-- A place in a source file. `line` counts the lines of the file as written and `column`
the characters of the cleaned line, both from one. Both are 32-bit words, as the verdicts
and diagnostics that carry them are. -/
structure Position where
  line : UInt32
  column : UInt32
  file : String
deriving DecidableEq, Inhabited

/-- The stretch of source from its first character up to, and without, the place `stop`. -/
structure Span where
  start : Position
  stop : Position
deriving DecidableEq, Inhabited

/-- The empty span at a position. -/
def Span.empty (position : Position) : Span := ⟨position, position⟩

/-- The name under which positions speak of a source. Text that was typed in, and is not in
a file, is called `shell`. -/
def sourceName (file : Option String) : String := file.getD "shell"

end HLang
