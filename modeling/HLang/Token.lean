/-
This file defines tokens: the lexemes of a program with their kinds and the places where
they stand.
-/

import HLang.Position
import HLang.Token.Kind

namespace HLang

/-- A lexeme of a program, with its kind and the stretch of source it covers. -/
structure Token where
  kind : TokenKind
  value : String
  span : Span
deriving DecidableEq, Inhabited

namespace Token

/-- The token that closes a stream ending at `position`. -/
def endOfInput (position : Position) : Token :=
  ⟨.endOfInput, "EOF", Span.empty position⟩

/-- The category under which a token is reported. -/
def category (token : Token) : TokenCategory :=
  token.kind.category

/-- Whether the kind of a token is among the given ones. -/
def isOneOf (token : Token) (kinds : List TokenKind) : Bool :=
  kinds.contains token.kind

end Token

end HLang
