/-
This file lays a diagnosis out for a reader at a console: the kind of fault with its tip, the
file, and the cleaned line of the failing statement with a caret under its first character.

    Error: UndeclaredIdentifier (Identifier `y` not declared)
    -> prog.hl
       |
     2 | y:=x+1;
       | ^

The bars of the last three lines stand in one column, and so do the caret and the character
it points at, because the line number and the gutter below and above it are equally wide.

The widths to which text is laid out are 16-bit words. A line number is never that wide, but a
failing column may be, and then there is no diagnostic.
-/

import HLang.Fault
import HLang.Source.Clean

namespace HLang

namespace Diagnosis

/-- The given character, written a number of times. -/
def repeated (c : Char) (times : Nat) : String :=
  String.ofList (List.replicate times c)

/-- The kind of fault, with the tip in parentheses if there is one. -/
def heading (diagnosis : Diagnosis) : String :=
  match diagnosis.fault.tip? with
  | none => "Error: " ++ diagnosis.fault.name
  | some tip => "Error: " ++ diagnosis.fault.name ++ " (" ++ tip ++ ")"

/-- The bar under the line number, after blanks as wide as the number and a space. -/
def gutter (diagnosis : Diagnosis) : String :=
  repeated ' ' ((decimal diagnosis.position.line.toNat).length + 1) ++ "|"

/-- The cleaned text of the failing line after its number. A line that was not kept is shown
empty. -/
def excerpt (diagnosis : Diagnosis) (clean : CleanSource) : String :=
  decimal diagnosis.position.line.toNat ++ " | " ++
    (clean.sourceLineText diagnosis.position.line).getD ""

/-- The greatest width to which text is laid out. -/
def maxWidth : Nat := 65535

/-- The caret under the failing column, led to by dashes, if that is not too wide. Column zero is
treated as one. -/
def pointer? (diagnosis : Diagnosis) : Option String :=
  let width := max diagnosis.position.column.toNat 1
  if width ≤ maxWidth then some (diagnosis.gutter ++ " " ++ repeated '-' (width - 1) ++ "^")
  else none

/-- The five lines of a diagnostic, if the last of them can be laid out. -/
def layout? (diagnosis : Diagnosis) (clean : CleanSource) : Option (List String) :=
  diagnosis.pointer?.map fun pointer =>
    [diagnosis.heading, "-> " ++ diagnosis.position.file, diagnosis.gutter,
      diagnosis.excerpt clean, pointer]

/-- The text of a diagnostic, if it can be laid out; every line of it is closed by a line feed. -/
def render? (diagnosis : Diagnosis) (clean : CleanSource) : Option String :=
  (diagnosis.layout? clean).map fun lines => String.join (lines.map (· ++ "\n"))

end Diagnosis

end HLang
