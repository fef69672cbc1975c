/-
This file writes a text between quotes so that every character of it can be seen and none
can be taken for the closing quote. The quote, the backslash, the line feed, the carriage
return, the tab and the null character have escapes of two characters; any other character
that is unprintable, would be drawn onto its neighbour or may be left out by a display is
written by its code point in base sixteen, as in `\u{301}`; all else stands for itself.
-/

import HLang.Text.Printable

namespace HLang

/-- A code point in base sixteen, between `\u{` and a closing brace. -/
def escapeCode (c : Char) : List Char :=
  ['\\', 'u', '\x7b'] ++ Nat.toDigits 16 c.toNat ++ ['\x7d']

/-- Whether a character would not be seen as one of its own if it stood for itself. -/
def isHidden (c : Char) : Bool :=
  isExtender c || isIgnorable c || !isPrintable c

/-- How a character is written between quotes. -/
def escapeChar (c : Char) : List Char :=
  if c = '\x00' then ['\\', '0']
  else if c = '\t' then ['\\', 't']
  else if c = '\r' then ['\\', 'r']
  else if c = '\n' then ['\\', 'n']
  else if c = '"' then ['\\', '"']
  else if c = '\\' then ['\\', '\\']
  else if isHidden c then escapeCode c
  else [c]

/-- A text as it is written between quotes. -/
def quoted (text : String) : String :=
  String.ofList ('"' :: (text.toList.flatMap escapeChar ++ ['"']))

end HLang
