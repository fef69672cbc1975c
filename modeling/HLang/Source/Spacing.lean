/-
This file removes the spaces of one source line that carry no meaning. Outside quotes a run
of whitespace disappears, unless the characters on its two sides would then be read as one
lexeme: two characters of words or numbers, or two characters that form a symbol together.
There a single space stays. A quote opens a region that is kept as written up to the next
quote or the end of the line; only carriage returns, the noise of foreign line endings, are
dropped from it.
-/

import HLang.Text.Whitespace

namespace HLang

/-- The characters of words and numbers. -/
def isWordChar (c : Char) : Bool :=
  c.isAlphanum || c == '.'

/-- The pairs of characters that form a symbol together. -/
def fusingPairs : List (Char × Char) :=
  [(':', '='), ('<', '<'), ('<', '='), ('>', '='), ('=', '='), ('!', '=')]

/-- Whether two characters would be read as part of one lexeme if nothing stood between
them. -/
def needsSeparator (previous next : Char) : Bool :=
  (isWordChar previous && isWordChar next) || fusingPairs.contains (previous, next)

/-- Where the cleaner of a line stands: outside quotes, with the last character it kept and
whether whitespace was skipped since, or inside a quoted region. -/
inductive Region where
  | plain (last : Option Char) (skipped : Bool)
  | quoted
deriving DecidableEq

/-- The space that has to be kept between the last kept character and the next one. -/
def gap (last : Option Char) (skipped : Bool) (next : Char) : List Char :=
  if skipped && last.any (needsSeparator · next) then [' '] else []

/-- Cleans the rest of a line. -/
def cleanFrom : Region → List Char → List Char
  | _, [] => []
  | .plain last skipped, c :: rest =>
    if isBlank c then cleanFrom (.plain last true) rest
    else gap last skipped c ++
      c :: cleanFrom (if c = '"' then .quoted else .plain (some c) false) rest
  | .quoted, c :: rest =>
    if c = '\r' then cleanFrom .quoted rest
    else c :: cleanFrom (if c = '"' then .plain (some c) false else .quoted) rest

/-- A source line without the whitespace that carries no meaning. -/
def cleanLine (line : List Char) : List Char :=
  cleanFrom (.plain none false) line

end HLang
