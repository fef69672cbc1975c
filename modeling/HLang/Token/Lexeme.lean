/-
This file cuts a text into lexemes and the whitespace between them. At each place it takes
the longest run that is whitespace, a number, a word, a closed string literal or a symbol of
the language; a character that starts none of these stands alone and is of unknown kind.
Numbers are read generously: a run of digits, letters and dots that starts with a digit is
one lexeme, so that `12ab` and `1.2.3` are each one unknown lexeme and not several good ones.

The pieces of a text put end to end are the text again, by `text_flatMap_pieces`.
-/

import HLang.Text.Whitespace
import HLang.Token.Kind

namespace HLang

/-! ### Character classes -/

/-- The characters that continue a number: ASCII letters, ASCII digits and the dot. -/
def isNumberChar (c : Char) : Bool :=
  c.isAlphanum || c == '.'

/-- The characters inside a string literal: all but the quote and the line feed. -/
def isStringChar (c : Char) : Bool :=
  c != '"' && c != '\n'

/-! ### Kinds of words, numbers and symbols -/

/-- The kind of a word: the four reserved words have kinds of their own, every other word is
an identifier. -/
def wordKind (word : List Char) : TokenKind :=
  if word = "integer".toList then .integerWord
  else if word = "double".toList then .doubleWord
  else if word = "If".toList then .ifWord
  else if word = "output".toList then .outputWord
  else .identifier

/-- The kind of a number: an integer literal is all digits, a double literal is digits, one
dot and digits, and any other run is unknown. -/
def numberKind (number : List Char) : TokenKind :=
  match number.dropWhile Char.isDigit with
  | [] => .integerLiteral
  | point :: fraction =>
    if point = '.' && !fraction.isEmpty && fraction.all Char.isDigit then .doubleLiteral
    else .unknown

/-- The kind of the symbol that two neighbouring characters form. -/
def pairKind : Char → Char → Option TokenKind
  | ':', '=' => some .colonEquals
  | '<', '<' => some .lessLess
  | '<', '=' => some .lessEquals
  | '>', '=' => some .greaterEquals
  | '=', '=' => some .equals
  | '!', '=' => some .notEquals
  | _, _ => none

/-- The kind of the symbol that one character forms by itself. -/
def singleKind : Char → Option TokenKind
  | ':' => some .colon
  | '<' => some .less
  | '>' => some .greater
  | ';' => some .semicolon
  | '(' => some .openParen
  | ')' => some .closeParen
  | '+' => some .plus
  | '-' => some .dash
  | _ => none

/-! ### Pieces -/

/-- A piece of a text: a lexeme with its kind, or a run of whitespace, which has none. A
piece holds at least one character. -/
structure Piece where
  kind : Option TokenKind
  first : Char
  more : List Char
deriving DecidableEq

/-- The characters of a piece. -/
def Piece.text (piece : Piece) : List Char :=
  piece.first :: piece.more

/-- The symbol that starts with `first`, or else that character alone: two characters win
over one. -/
def symbolPiece (first : Char) (rest : List Char) : Piece :=
  match rest.head?.bind (pairKind first) with
  | some kind => ⟨some kind, first, rest.take 1⟩
  | none => ⟨some ((singleKind first).getD .unknown), first, []⟩

/-- The characters after a quote that would stand inside a string literal. -/
def stringInside (rest : List Char) : List Char :=
  rest.takeWhile isStringChar

/-- The string literal that a quote opens, if it is closed on its line, or else the quote
alone. -/
def stringPiece (rest : List Char) : Piece :=
  if (rest.drop (stringInside rest).length).head? = some '"' then
    ⟨some .stringLiteral, '"', stringInside rest ++ ['"']⟩
  else ⟨some .unknown, '"', []⟩

/-- The piece at the front of the text `first :: rest`. -/
def firstPiece (first : Char) (rest : List Char) : Piece :=
  if isBlank first then ⟨none, first, rest.takeWhile isBlank⟩
  else if first.isDigit then
    let more := rest.takeWhile isNumberChar
    ⟨some (numberKind (first :: more)), first, more⟩
  else if first.isAlpha then
    let more := rest.takeWhile Char.isAlphanum
    ⟨some (wordKind (first :: more)), first, more⟩
  else if first = '"' then stringPiece rest
  else symbolPiece first rest

/-- The pieces of a text, from its front to its end. -/
def pieces : List Char → List Piece
  | [] => []
  | first :: rest =>
    let piece := firstPiece first rest
    piece :: pieces (rest.drop piece.more.length)
termination_by text => text.length
decreasing_by
  rw [List.length_drop, List.length_cons]
  omega

/-! ### Nothing is lost -/

theorem takeWhile_append_drop_length (accepts : Char → Bool) (text : List Char) :
    text.takeWhile accepts ++ text.drop (text.takeWhile accepts).length = text := by
  induction text with
  | nil => rfl
  | cons first rest inductionHypothesis =>
    rw [List.takeWhile_cons]
    split
    · simp only [List.cons_append, List.length_cons, List.drop_succ_cons, inductionHypothesis]
    · rfl

theorem symbolPiece_text (first : Char) (rest : List Char) :
    (symbolPiece first rest).text ++ rest.drop (symbolPiece first rest).more.length =
      first :: rest := by
  unfold symbolPiece Piece.text
  cases rest with
  | nil => rfl
  | cons second rest =>
    cases pair : pairKind first second <;> simp [pair]

theorem stringPiece_text (rest : List Char) :
    (stringPiece rest).text ++ rest.drop (stringPiece rest).more.length = '"' :: rest := by
  unfold stringPiece Piece.text
  split
  · rename_i closed
    obtain ⟨after, shape⟩ := List.head?_eq_some_iff.mp closed
    have whole : stringInside rest ++ rest.drop (stringInside rest).length = rest :=
      takeWhile_append_drop_length isStringChar rest
    have remainder : rest.drop ((stringInside rest).length + 1) = after := by
      rw [← List.drop_drop, shape]
      rfl
    rw [shape] at whole
    simp only [List.length_append, List.length_singleton, remainder, List.cons_append,
      List.append_assoc, List.nil_append, whole]
  · rfl

/-- A piece and what is left after it are the text it was taken from. -/
theorem firstPiece_text (first : Char) (rest : List Char) :
    (firstPiece first rest).text ++ rest.drop (firstPiece first rest).more.length =
      first :: rest := by
  unfold firstPiece
  split
  · exact congrArg (first :: ·) (takeWhile_append_drop_length isBlank rest)
  split
  · exact congrArg (first :: ·) (takeWhile_append_drop_length isNumberChar rest)
  split
  · exact congrArg (first :: ·) (takeWhile_append_drop_length Char.isAlphanum rest)
  split
  · rename_i quote
    rw [quote]
    exact stringPiece_text rest
  · exact symbolPiece_text first rest

/-- The pieces of a text put end to end are the text. -/
theorem text_flatMap_pieces (text : List Char) :
    (pieces text).flatMap Piece.text = text := by
  fun_induction pieces text with
  | case1 => rfl
  | case2 first rest piece inductionHypothesis =>
    rw [List.flatMap_cons, inductionHypothesis]
    exact firstPiece_text first rest

end HLang
