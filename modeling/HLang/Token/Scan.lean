/-
This file turns a cleaned text into tokens. The text is cut into pieces, whitespace is
dropped, and every lexeme is given the positions of its two ends. The last token marks the
end of the input. Nothing is rejected here: unknown lexemes become tokens like all others,
so that the checker can report them at the statement they stand in.
-/

import HLang.Token.Cursor
import HLang.Token.Lexeme

namespace HLang

/-- The tokens of the pieces that follow one another from `place` on. -/
def placeTokens (clean : CleanSource) (file : String) : Place → List Piece → List Token
  | place, [] => [Token.endOfInput (place.position clean file)]
  | place, piece :: more =>
    let next := place.past piece.text
    match piece.kind with
    | none => placeTokens clean file next more
    | some kind =>
      let span : Span := ⟨place.position clean file, next.position clean file⟩
      ⟨kind, String.ofList piece.text, span⟩ :: placeTokens clean file next more

/-- The tokens of a cleaned text. -/
def CleanSource.tokens (clean : CleanSource) (file : String) : List Token :=
  placeTokens clean file Place.start (pieces clean.text.toList)

end HLang
