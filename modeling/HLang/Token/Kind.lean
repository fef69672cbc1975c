/-
This file lists the kinds of token of the HL language and what each kind is called: its name
in machine-readable answers, the coarse category under which it is reported, and the phrase
that error messages use for it. A kind whose tokens are all spelled alike (a reserved word,
an operator or a delimiter) is described by that spelling in backquotes.
-/

namespace HLang

/-! ### Kinds -/

/-- The kinds of token. `unknown` marks text that belongs to no other kind, and `endOfInput`
closes every token stream. -/
inductive TokenKind where
  | endOfInput
  | unknown
  | identifier
  | integerLiteral
  | doubleLiteral
  | stringLiteral
  | openParen
  | closeParen
  | semicolon
  | colon
  | colonEquals
  | lessLess
  | less
  | lessEquals
  | greater
  | greaterEquals
  | equals
  | notEquals
  | plus
  | dash
  | integerWord
  | doubleWord
  | ifWord
  | outputWord
deriving DecidableEq, Inhabited

/-- The categories under which tokens are reported. -/
inductive TokenCategory where
  | reservedWord
  | identifier
  | integerLiteral
  | doubleLiteral
  | stringLiteral
  | assignOp
  | colonOp
  | relOp
  | arithOp
  | outputOp
  | leftParen
  | rightParen
  | semicolon
  | unknown
  | endOfInput
deriving DecidableEq, Inhabited

namespace TokenKind

/-- All kinds, in the order of their definition. -/
def all : List TokenKind :=
  [.endOfInput, .unknown, .identifier, .integerLiteral, .doubleLiteral, .stringLiteral,
    .openParen, .closeParen, .semicolon, .colon, .colonEquals, .lessLess, .less, .lessEquals,
    .greater, .greaterEquals, .equals, .notEquals, .plus, .dash, .integerWord, .doubleWord,
    .ifWord, .outputWord]

/-- The name of a kind. -/
def name : TokenKind → String
  | .endOfInput => "EOF"
  | .unknown => "Unknown"
  | .identifier => "Identifier"
  | .integerLiteral => "IntegerLiteral"
  | .doubleLiteral => "DoubleLiteral"
  | .stringLiteral => "StringLiteral"
  | .openParen => "OpenParen"
  | .closeParen => "CloseParen"
  | .semicolon => "Semicolon"
  | .colon => "Colon"
  | .colonEquals => "ColonEquals"
  | .lessLess => "LessLess"
  | .less => "Less"
  | .lessEquals => "LessEquals"
  | .greater => "Greater"
  | .greaterEquals => "GreaterEquals"
  | .equals => "Equals"
  | .notEquals => "NotEquals"
  | .plus => "Plus"
  | .dash => "Dash"
  | .integerWord => "Integer"
  | .doubleWord => "Double"
  | .ifWord => "If"
  | .outputWord => "Output"

/-- The kind with a given name. -/
def ofName? (text : String) : Option TokenKind :=
  all.find? fun kind => kind.name = text

/-- The one spelling of a reserved word, an operator or a delimiter; the other kinds have
none. -/
def spelling? : TokenKind → Option String
  | .openParen => some "("
  | .closeParen => some ")"
  | .semicolon => some ";"
  | .colon => some ":"
  | .colonEquals => some ":="
  | .lessLess => some "<<"
  | .less => some "<"
  | .lessEquals => some "<="
  | .greater => some ">"
  | .greaterEquals => some ">="
  | .equals => some "=="
  | .notEquals => some "!="
  | .plus => some "+"
  | .dash => some "-"
  | .integerWord => some "integer"
  | .doubleWord => some "double"
  | .ifWord => some "If"
  | .outputWord => some "output"
  | .endOfInput | .unknown | .identifier | .integerLiteral | .doubleLiteral
  | .stringLiteral => none

/-- The phrase for a kind in an error message. -/
def describe : TokenKind → String
  | .endOfInput => "end of input"
  | .unknown => "an unrecognised token"
  | .identifier => "an identifier"
  | .integerLiteral => "an integer literal"
  | .doubleLiteral => "a double literal"
  | .stringLiteral => "a string literal"
  | kind => "`" ++ kind.spelling?.getD "" ++ "`"

/-! ### Categories -/

/-- The category under which a kind is reported. -/
def category : TokenKind → TokenCategory
  | .endOfInput => .endOfInput
  | .unknown => .unknown
  | .identifier => .identifier
  | .integerLiteral => .integerLiteral
  | .doubleLiteral => .doubleLiteral
  | .stringLiteral => .stringLiteral
  | .openParen => .leftParen
  | .closeParen => .rightParen
  | .semicolon => .semicolon
  | .colon => .colonOp
  | .colonEquals => .assignOp
  | .lessLess => .outputOp
  | .less | .lessEquals | .greater | .greaterEquals | .equals | .notEquals => .relOp
  | .plus | .dash => .arithOp
  | .integerWord | .doubleWord | .ifWord | .outputWord => .reservedWord

end TokenKind

namespace TokenCategory

/-- All categories, in the order of their definition. -/
def all : List TokenCategory :=
  [.reservedWord, .identifier, .integerLiteral, .doubleLiteral, .stringLiteral, .assignOp,
    .colonOp, .relOp, .arithOp, .outputOp, .leftParen, .rightParen, .semicolon, .unknown,
    .endOfInput]

/-- The name of a category. -/
def name : TokenCategory → String
  | .reservedWord => "ReservedWord"
  | .identifier => "Identifier"
  | .integerLiteral => "IntegerLiteral"
  | .doubleLiteral => "DoubleLiteral"
  | .stringLiteral => "StringLiteral"
  | .assignOp => "AssignOp"
  | .colonOp => "ColonOp"
  | .relOp => "RelOp"
  | .arithOp => "ArithOp"
  | .outputOp => "OutputOp"
  | .leftParen => "LParen"
  | .rightParen => "RParen"
  | .semicolon => "Semicolon"
  | .unknown => "Unknown"
  | .endOfInput => "End"

/-- The category with a given name. -/
def ofName? (text : String) : Option TokenCategory :=
  all.find? fun category => category.name = text

/-- Operators and delimiters are symbols. -/
def isSymbol : TokenCategory → Bool
  | .assignOp | .colonOp | .relOp | .arithOp | .outputOp | .leftParen | .rightParen
  | .semicolon => true
  | .reservedWord | .identifier | .integerLiteral | .doubleLiteral | .stringLiteral
  | .unknown | .endOfInput => false

end TokenCategory

namespace TokenKind

/-- Whether tokens of the kind are reserved words. -/
def isReserved (kind : TokenKind) : Bool :=
  kind.category == .reservedWord

/-- Whether tokens of the kind are operators or delimiters. -/
def isSymbol (kind : TokenKind) : Bool :=
  kind.category.isSymbol

/-- Whether tokens of the kind compare the two sides of a condition. -/
def isRelational (kind : TokenKind) : Bool :=
  kind.category == .relOp

end TokenKind

end HLang
