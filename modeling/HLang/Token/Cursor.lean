/-
This file keeps track of the place in a cleaned text while it is read. A place counts the
bytes read and the row and column reached. A cursor is a place together with the text that
is still to be read; it moves by a number of bytes, and refuses to move to where no character
starts, so it never stands inside a character or behind the end of the text.
-/

import HLang.Source.Clean
import HLang.Token

namespace HLang

/-! ### Places -/

/-- A place in a cleaned text: the number of bytes before it, and the row and column of the
character at it, both counted from one. -/
structure Place where
  offset : Nat
  row : Nat
  column : Nat
deriving DecidableEq, Inhabited

namespace Place

/-- The place of the first character. -/
def start : Place := ⟨0, 1, 1⟩

/-- The place after the character `c` that stands at `place`. -/
def after (place : Place) (c : Char) : Place :=
  if c = '\n' then ⟨place.offset + c.utf8Size, place.row + 1, 1⟩
  else ⟨place.offset + c.utf8Size, place.row, place.column + 1⟩

/-- The place after the characters that stand at `place`. -/
def past (place : Place) (text : List Char) : Place :=
  text.foldl after place

/-- The position of a place: its row is replaced by the source line it came from. -/
def position (place : Place) (clean : CleanSource) (file : String) : Position :=
  ⟨clean.sourceLine (UInt32.ofNat place.row), UInt32.ofNat place.column, file⟩

end Place

/-! ### Cursors -/

/-- Cuts the characters that fill exactly the given number of bytes off a text. There is no
such cut if the text is shorter or a character lies across the boundary. -/
def cutBytes : Nat → List Char → Option (List Char × List Char)
  | 0, text => some ([], text)
  | _ + 1, [] => none
  | bytes + 1, c :: rest =>
    if c.utf8Size ≤ bytes + 1 then
      (cutBytes (bytes + 1 - c.utf8Size) rest).map fun cut => (c :: cut.1, cut.2)
    else none

/-- A place in a cleaned text and the text from there on. -/
structure Cursor where
  clean : CleanSource
  file : String
  place : Place
  remaining : List Char
deriving DecidableEq

namespace Cursor

/-- A cursor at the front of a cleaned text. -/
def start (clean : CleanSource) (file : String) : Cursor :=
  ⟨clean, file, Place.start, clean.text.toList⟩

/-- Whether the whole text was read. -/
def atEnd (cursor : Cursor) : Bool :=
  cursor.remaining.isEmpty

/-- The character at the cursor, if there is one. -/
def current? (cursor : Cursor) : Option Char :=
  cursor.remaining.head?

/-- The position of the cursor. -/
def position (cursor : Cursor) : Position :=
  cursor.place.position cursor.clean cursor.file

/-- The cursor moved by a number of bytes, if a character starts or the text ends there. -/
def advance? (cursor : Cursor) (bytes : Nat) : Option Cursor :=
  (cutBytes bytes cursor.remaining).map fun cut =>
    { cursor with place := cursor.place.past cut.1, remaining := cut.2 }

/-- Takes a token of the given kind and value at the cursor, and moves the cursor by the
length of the value in bytes. The value need not be the text that stands there. -/
def take? (cursor : Cursor) (kind : TokenKind) (value : String) : Option (Token × Cursor) :=
  (cursor.advance? value.utf8ByteSize).map fun next =>
    (⟨kind, value, ⟨cursor.position, next.position⟩⟩, next)

end Cursor

end HLang
