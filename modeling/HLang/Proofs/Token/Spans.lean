/-
This file proves that the spans of tokens are exact. A token stands on one line of its file, and the
cleaned text of that line, which is what a diagnostic shows, has the characters of the token in the
columns of its span. The tokens of a file stand in the order of the file and do not overlap.

The scanner keeps count of rows and columns as it goes. What it counts is decided by the text it
has read, so `Laid` keeps that text and forgets the counting: it lists tokens with the text in front
of each of them, and every fact about spans is an induction on such a list.
-/

import HLang.Proofs.Source.Places
import HLang.Proofs.Source.Lossless

namespace HLang

/-! ### Lexemes stand in one row -/

theorem lineFeed_not_mem_stringPiece (rest : List Char) :
    '\n' ∉ '"' :: (stringPiece rest).more := by
  by_cases closed : ClosesQuote rest
  · obtain ⟨inside, tail, rfl, plain⟩ := closed
    rw [stringPiece_closed plain]
    simp only [List.mem_cons, List.mem_append, List.not_mem_nil, or_false, not_or]
    exact ⟨by decide, fun member => (isStringChar_iff.mp (plain '\n' member)).2 rfl, by decide⟩
  · rw [stringPiece_open closed]
    decide

/-- No lexeme holds a line feed. -/
theorem lineFeed_not_mem_firstPiece {first : Char} (solid : isBlank first = false)
    (rest : List Char) : '\n' ∉ first :: (firstPiece first rest).more := by
  by_cases quote : first = '"'
  · rw [quote, firstPiece_quote]
    exact lineFeed_not_mem_stringPiece rest
  · intro member
    rcases List.mem_cons.mp member with rfl | among
    · exact absurd solid (by decide)
    · exact absurd (solid_of_mem_more solid quote rest '\n' among).1 (by decide)

/-! ### Tokens and the text in front of them -/

/-- The token was cut from the cleaned text behind `before`, and its span says so. -/
structure Token.CutBehind (token : Token) (clean : CleanSource) (file : String)
    (before : List Char) : Prop where
  filled : token.value.toList ≠ []
  sameRow : '\n' ∉ token.value.toList
  isPrefix : before ++ token.value.toList <+: clean.text.toList
  span : token.span = ⟨(Place.start.past before).position clean file,
    (Place.start.past (before ++ token.value.toList)).position clean file⟩

theorem Token.cutBehind {clean : CleanSource} {before text : List Char} (kind : TokenKind)
    (file : String) (filled : text ≠ []) (sameRow : '\n' ∉ text)
    (front : before ++ text <+: clean.text.toList) :
    Token.CutBehind ⟨kind, String.ofList text, ⟨(Place.start.past before).position clean file,
      ((Place.start.past before).past text).position clean file⟩⟩ clean file before := by
  have value : (String.ofList text).toList = text := String.toList_ofList
  refine ⟨?_, ?_, ?_, ?_⟩
  · simpa only [value] using filled
  · simpa only [value] using sameRow
  · simpa only [value] using front
  · simp only [value, Place.past_append]

/-- The position behind a cleaned text. -/
def CleanSource.stop (clean : CleanSource) (file : String) : Position :=
  (Place.start.past clean.text.toList).position clean file

/-- The tokens were cut one after the other from the cleaned text behind `before`, with some text
left out in front of each of them, up to the end of the text. -/
inductive Laid (clean : CleanSource) (file : String) : List Char → List Token → Prop where
  | ended (before : List Char) (front : before <+: clean.text.toList) :
      Laid clean file before [Token.endOfInput (clean.stop file)]
  | token (before gap : List Char) (token : Token) (more : List Token)
      (cut : token.CutBehind clean file (before ++ gap))
      (later : Laid clean file (before ++ gap ++ token.value.toList) more) :
      Laid clean file before (token :: more)

variable {clean : CleanSource} {file : String} {before : List Char} {tokens : List Token}

/-- Text may be left out in front of all tokens. -/
theorem Laid.skip {gap : List Char} (laid : Laid clean file (before ++ gap) tokens) :
    Laid clean file before tokens := by
  cases laid with
  | ended _ front => exact .ended before ((List.prefix_append before gap).trans front)
  | token _ other token more cut later =>
    rw [List.append_assoc before] at cut later
    exact .token before (gap ++ other) token more cut later

theorem firstPiece_eq {first : Char} {rest more : List Char} {kind : Option TokenKind}
    (cut : (firstPiece first rest).more = more) (isKind : (firstPiece first rest).kind = kind) :
    firstPiece first rest = ⟨kind, first, more⟩ := by
  have front : (firstPiece first rest).first = first :=
    (List.cons.inj (firstPiece_text first rest)).1
  rw [← cut, ← isKind]
  exact congrArg (Piece.mk _ · _) front

/-- The scanner lays the tokens of a text out behind what it has read before. -/
theorem laid_placeTokens {rest : List Char} (whole : before ++ rest = clean.text.toList) :
    Laid clean file before (placeTokens clean file (Place.start.past before) (pieces rest)) := by
  induction rest using pieces_induction generalizing before with
  | nil =>
    rw [List.append_nil] at whole
    rw [pieces, placeTokens, whole]
    exact .ended _ List.prefix_rfl
  | cons first more behind cut inductionHypothesis =>
    have further : (before ++ first :: more) ++ behind = clean.text.toList := by
      rw [← whole, List.append_assoc, List.cons_append]
    have later := inductionHypothesis further
    rw [pieces, cut, List.drop_left, placeTokens]
    cases isKind : (firstPiece first (more ++ behind)).kind with
    | none =>
      rw [firstPiece_eq cut isKind]
      rw [Place.past_append] at later
      exact later.skip
    | some kind =>
      have solid : isBlank first = false := by
        refine Bool.eq_false_iff.mpr fun blank => ?_
        rw [firstPiece_blank blank] at isKind
        cases isKind
      have sameRow : '\n' ∉ first :: more := cut ▸ lineFeed_not_mem_firstPiece solid _
      have value : (String.ofList (first :: more)).toList = first :: more := String.toList_ofList
      rw [firstPiece_eq cut isKind]
      refine .token before [] _ _ ?_ ?_
      · rw [List.append_nil]
        exact Token.cutBehind kind file (List.cons_ne_nil first more) sameRow ⟨behind, further⟩
      · simp only [Piece.text, value, List.append_nil, ← Place.past_append]
        exact later

theorem laid_tokens (clean : CleanSource) (file : String) :
    Laid clean file [] (clean.tokens file) :=
  laid_placeTokens rfl

/-! ### What a span covers -/

/-- The token stands on one line that was kept, and the cleaned text of that line has the
characters of the token in the columns of its span. -/
structure Token.Shown (token : Token) (clean : CleanSource) : Prop where
  filled : token.value ≠ ""
  sameLine : token.span.stop.line = token.span.start.line
  covered : ∃ left right, clean.sourceLineText token.span.start.line =
      some (String.ofList (left ++ token.value.toList ++ right)) ∧
    token.span.start.column.toNat = left.length + 1 ∧
    token.span.stop.column.toNat = left.length + 1 + token.value.length

theorem Token.CutBehind.shown {token : Token} (mapped : clean.Mapped)
    (cut : token.CutBehind clean file before) : token.Shown clean := by
  obtain ⟨filled, sameRow, front, span⟩ := cut
  obtain ⟨above, last⟩ := rows_append sameRow before
  have start := CleanSource.standsAt_position mapped
    ((List.prefix_append before token.value.toList).trans front) file
  have stop := CleanSource.standsAt_position mapped front file
  obtain ⟨after, whole⟩ := front
  obtain ⟨right, -, -, text⟩ := stop.sourceLineText mapped whole
  have sameLine : token.span.stop.line = token.span.start.line := by
    rw [span, stop.line, start.line]
    simp only [above]
  refine ⟨fun empty => filled (by rw [empty]; rfl), sameLine, lastRow before, right, ?_, ?_, ?_⟩
  · rw [← sameLine, span, text, last]
  · rw [span, start.column]
  · rw [span, stop.column, last, List.length_append, String.length_toList]
    omega

/-- All tokens but the last are shown where their spans say. -/
theorem Laid.shown (mapped : clean.Mapped) (laid : Laid clean file before tokens) :
    ∃ lexical, tokens = lexical ++ [Token.endOfInput (clean.stop file)] ∧
      ∀ token ∈ lexical, token.Shown clean := by
  induction laid with
  | ended before front => exact ⟨[], rfl, fun _ member => absurd member List.not_mem_nil⟩
  | token before gap token more cut later inductionHypothesis =>
    obtain ⟨lexical, rfl, shown⟩ := inductionHypothesis
    exact ⟨token :: lexical, rfl, List.forall_mem_cons.mpr ⟨cut.shown mapped, shown⟩⟩

/-! ### The order of tokens -/

/-- All tokens start behind the text in front of them. -/
theorem Laid.start_behind (laid : Laid clean file before tokens) :
    ∀ token ∈ tokens, ∃ further, before <+: further ∧ further <+: clean.text.toList ∧
      token.span.start = (Place.start.past further).position clean file := by
  induction laid with
  | ended before front =>
    exact List.forall_mem_singleton.mpr ⟨_, front, List.prefix_rfl, rfl⟩
  | token before gap token more cut later inductionHypothesis =>
    refine List.forall_mem_cons.mpr ⟨⟨before ++ gap, List.prefix_append before gap, ?_, ?_⟩, ?_⟩
    · exact (List.prefix_append _ _).trans cut.isPrefix
    · rw [cut.span]
    · intro other member
      obtain ⟨further, behind, front, start⟩ := inductionHypothesis other member
      refine ⟨further, ?_, front, start⟩
      rw [List.append_assoc] at behind
      exact (List.prefix_append _ _).trans behind

theorem Laid.pairwise (mapped : clean.Mapped) (laid : Laid clean file before tokens) :
    tokens.Pairwise fun first second => first.span.stop.AtOrBefore second.span.start := by
  induction laid with
  | ended before front => exact List.pairwise_singleton _ _
  | token before gap token more cut later inductionHypothesis =>
    refine List.pairwise_cons.mpr ⟨fun other member => ?_, inductionHypothesis⟩
    obtain ⟨further, behind, front, start⟩ := later.start_behind other member
    rw [cut.span, start]
    exact (CleanSource.standsAt_position mapped cut.isPrefix file).atOrBefore mapped
      (CleanSource.standsAt_position mapped front file) behind

/-! ### Files -/

namespace CleanSource

/-- The cleaned text ends on the last line that was kept, behind its last character. -/
theorem stop_of_mapped (mapped : clean.Mapped) :
    clean.lineNumbers.getLast? = some (clean.stop file).line ∧
      ∃ text, clean.sourceLineText (clean.stop file).line = some text ∧
        (clean.stop file).column.toNat = text.length + 1 := by
  have stands := standsAt_position mapped (List.prefix_rfl (l := clean.text.toList)) file
  obtain ⟨head, lower, shape, text⟩ := stands.sourceLineText mapped (List.append_nil _)
  obtain ⟨rfl, -⟩ := List.cons.inj (shape.symm.trans (List.splitOn_nil '\n'))
  have rows := mapped.complete
  rw [splitLines_eq_concat, List.length_append, List.length_singleton] at rows
  refine ⟨?_, _, text, ?_⟩
  · rw [List.getLast?_eq_getElem?, rows, Nat.add_sub_cancel, List.getElem?_eq_getElem stands.bound]
    exact congrArg some stands.line.symm
  · rw [List.append_nil, String.length_ofList]
    exact stands.column

/-- If no line was kept, the end of input is all there is, and it stands at the first position. -/
theorem tokens_of_isEmpty {source : String} (empty : (ofSource source).isEmpty = true)
    (file : String) : (ofSource source).tokens file = [Token.endOfInput ⟨1, 1, file⟩] := by
  have none := isEmpty_ofSource_iff.mp empty
  have text : (ofSource source).text.toList = [] := by
    rw [text_ofSource, none]
    rfl
  have numbers : (ofSource source).lineNumbers = [] := by
    refine List.eq_nil_of_length_eq_zero ?_
    rw [length_lineNumbers, none]
    rfl
  unfold tokens
  rw [text, pieces, placeTokens]
  unfold Place.position sourceLine
  rw [numbers]
  rfl

/-- Every token of a file but the last is shown in the columns of its span, on the line of its
span. No token starts before the ones in front of it have stopped. The last token stands behind the
last character of the last line that was kept, or at the first position if there is none. -/
theorem tokens_shown (source file : String) (characters : source.length < UInt32.size - 1) :
    ∃ lexical last, (ofSource source).tokens file = lexical ++ [Token.endOfInput last] ∧
      (∀ token ∈ lexical, token.Shown (ofSource source)) ∧
      ((ofSource source).tokens file).Pairwise
        (fun first second => first.span.stop.AtOrBefore second.span.start) ∧
      ((ofSource source).isEmpty = true → last = ⟨1, 1, file⟩) ∧
      ((ofSource source).isEmpty = false →
        (ofSource source).lineNumbers.getLast? = some last.line ∧
          ∃ text, (ofSource source).sourceLineText last.line = some text ∧
            last.column.toNat = text.length + 1) := by
  by_cases empty : (ofSource source).isEmpty = true
  · have alone := tokens_of_isEmpty empty file
    refine ⟨[], ⟨1, 1, file⟩, alone, ?_, ?_, fun _ => rfl, fun filled => ?_⟩
    · exact fun _ member => absurd member List.not_mem_nil
    · rw [alone]
      exact List.pairwise_singleton _ _
    · rw [empty] at filled
      exact absurd filled (by decide)
  · have mapped := mapped_ofSource characters (mt isEmpty_ofSource_iff.mpr empty)
    have laid := laid_tokens (ofSource source) file
    obtain ⟨lexical, whole, shown⟩ := laid.shown mapped
    exact ⟨lexical, _, whole, shown, laid.pairwise mapped, fun isEmpty => absurd isEmpty empty,
      fun _ => stop_of_mapped mapped⟩

end CleanSource

/-- A token on one line, from its first column up to the column behind it. -/
def Token.inColumns (kind : TokenKind) (value : String) (line first behind : UInt32) : Token :=
  ⟨kind, value, ⟨⟨line, first, "shell"⟩, ⟨line, behind, "shell"⟩⟩⟩

namespace CleanSource

/-- A file in which two lines are dropped and a literal holds characters of several bytes. -/
def droppedLines : String := "\r\n x := \"é\u2003\" ;\n\t\n # "

/-- The tokens of that file but for the end of input: four on its second line, and one on its
fourth. -/
def droppedLinesTokens : List Token :=
  [.inColumns .identifier "x" 2 1 2, .inColumns .colonEquals ":=" 2 2 4,
    .inColumns .stringLiteral "\"é\u2003\"" 2 4 8, .inColumns .semicolon ";" 2 8 9,
    .inColumns .unknown "#" 4 1 2]

theorem tokens_shown_droppedLines :
    droppedLines.length < UInt32.size - 1 ∧
    (ofSource droppedLines).tokens "shell" =
      droppedLinesTokens ++ [Token.endOfInput ⟨4, 2, "shell"⟩] ∧
    (∀ token ∈ droppedLinesTokens, token.Shown (ofSource droppedLines)) ∧
    (ofSource droppedLines).sourceLineText 2 = some "x:=\"é\u2003\";" ∧
    (ofSource droppedLines).sourceLineText 4 = some "#" := by
  have characters : droppedLines.length < UInt32.size - 1 := by decide
  have tokens : (ofSource droppedLines).tokens "shell" =
      droppedLinesTokens ++ [Token.endOfInput ⟨4, 2, "shell"⟩] := by decide +kernel
  obtain ⟨lexical, last, whole, shown, -⟩ := tokens_shown _ "shell" characters
  obtain ⟨rfl, -⟩ := List.append_inj' (whole.symm.trans tokens) rfl
  exact ⟨characters, tokens, shown, by decide, by decide⟩

end CleanSource

end HLang
