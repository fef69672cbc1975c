/-
This file lists the reserved words, operators and delimiters of a program for its user: one
line for each, in the order of the program, with its spelling and its category.
-/

import HLang.Token

namespace HLang

/-- A line of the token report. -/
structure ReportEntry where
  lexeme : String
  category : TokenCategory
deriving DecidableEq, Inhabited

namespace ReportEntry

/-- The entry of a token, if it is reported. -/
def ofToken? (token : Token) : Option ReportEntry :=
  if token.kind.isReserved || token.kind.isSymbol then some ⟨token.value, token.category⟩
  else none

/-- A lexeme and its category with a tab between them and a line feed behind. -/
def line (entry : ReportEntry) : String :=
  entry.lexeme ++ "\t" ++ entry.category.name ++ "\n"

end ReportEntry

/-- The token report of a program. -/
def reportEntries (tokens : List Token) : List ReportEntry :=
  tokens.filterMap ReportEntry.ofToken?

/-- The text of a token report. -/
def renderReport (entries : List ReportEntry) : String :=
  String.join (entries.map ReportEntry.line)

end HLang
