/-
This file defines the token stream that a checking session reads. A stream is a list of
tokens with a mark among them: the tokens before the mark were passed, the one at the mark is
the current token. Every stream ends with an end-of-input token, which is never passed, so
there is always a current token and nothing can be read behind the end.
-/

import HLang.Token

namespace HLang

/-- A token stream: the passed tokens, the nearest first, the tokens from the mark to the
end, and the value and span of the end-of-input token that closes the stream. -/
structure TokenStream where
  passed : List Token
  ahead : List Token
  endValue : String
  endSpan : Span
deriving DecidableEq

namespace TokenStream

/-- The stream of a list of tokens, with the mark at the first one. A list that does not end
with an end-of-input token is closed by one, which stands where its last token ends, or at
the start of the file if there is no token. -/
def ofList (tokens : List Token) (file : String) : TokenStream :=
  match tokens.getLast? with
  | none => ⟨[], [], "EOF", Span.empty ⟨1, 1, file⟩⟩
  | some last =>
    if last.kind = .endOfInput then ⟨[], tokens.dropLast, last.value, last.span⟩
    else ⟨[], tokens, "EOF", Span.empty last.span.stop⟩

/-- The token that closes a stream. -/
def endToken (stream : TokenStream) : Token :=
  ⟨.endOfInput, stream.endValue, stream.endSpan⟩

/-- All tokens of a stream, in order. -/
def toList (stream : TokenStream) : List Token :=
  stream.passed.reverse ++ stream.ahead ++ [stream.endToken]

/-- The number of tokens before the current one. -/
def index (stream : TokenStream) : Nat :=
  stream.passed.length

/-- The token at the mark. -/
def current (stream : TokenStream) : Token :=
  stream.ahead.head?.getD stream.endToken

/-- The kind of the token that many places after the current one; behind the end there is
only end of input. -/
def kindAt (stream : TokenStream) (distance : Nat) : TokenKind :=
  (stream.ahead[distance]?.map Token.kind).getD .endOfInput

/-- Moves the mark past the current token, unless that one closes the stream. -/
def advance (stream : TokenStream) : TokenStream :=
  match stream.ahead with
  | [] => stream
  | token :: rest => { stream with passed := token :: stream.passed, ahead := rest }

/-- The token before the current one, or the current one if it is the first. -/
def previous (stream : TokenStream) : Token :=
  stream.passed.head?.getD stream.current

/-! ### What the operations keep -/

/-- Moving the mark changes no token. -/
theorem toList_advance (stream : TokenStream) : stream.advance.toList = stream.toList := by
  unfold advance toList
  split
  · rfl
  · rename_i token rest shape
    simp [shape, endToken]

/-- The current token stands at the index of the stream. -/
theorem getElem?_index (stream : TokenStream) :
    stream.toList[stream.index]? = some stream.current := by
  unfold toList index current
  rw [List.append_assoc, List.getElem?_append_right (by simp)]
  cases stream.ahead <;> simp

/-- The stream of a list holds that list, closed if it was not. -/
theorem toList_ofList (tokens : List Token) (file : String) :
    (ofList tokens file).toList =
      if (tokens.getLast?.map Token.kind) = some .endOfInput then tokens
      else tokens ++ [(ofList tokens file).endToken] := by
  cases last : tokens.getLast? with
  | none =>
    rw [List.getLast?_eq_none_iff] at last
    simp [ofList, last, toList]
  | some token =>
    obtain ⟨front, whole⟩ := List.getLast?_eq_some_iff.mp last
    by_cases closed : token.kind = .endOfInput
    · have same : (ofList tokens file).endToken = token := by
        simp only [ofList, last, closed, if_pos, endToken]
        rw [← closed]
      rw [toList, same, Option.map_some, closed, if_pos rfl]
      simp [ofList, closed, whole]
    · simp [ofList, last, closed, toList]

end TokenStream

end HLang
