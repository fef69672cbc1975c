/-
This file scans two files that are put one below the other. The tokens of the whole are those of the
upper file and then those of the lower one, on lines further down: a line feed ends every lexeme, so
a quote, a blank or the front of a symbol that ends the upper file takes nothing from the lower one.

The line feed itself may be scanned together with blanks on either side, and then no piece of the
whole is a piece of a part. So the cut is made in the tokens, where blanks are gone. Where a token
stands is decided by the row and the column counted so far and by the line map. Both files count
columns alike, and `Continues` says that the line map of the whole goes on with that of each part.
-/

import HLang.Proofs.Source.Joined
import HLang.Proofs.Token.Munch
import Mathlib.Data.List.Forall2

namespace HLang

/-! ### Tokens that stand for text -/

/-- The tokens but for those that mark the end of input. -/
def lexicalTokens (tokens : List Token) : List Token :=
  tokens.filter fun token => token.kind != .endOfInput

/-- The tokens of a text that is read from a place on. -/
def lexicalFrom (clean : CleanSource) (file : String) (place : Place) (text : List Char) :
    List Token :=
  lexicalTokens (placeTokens clean file place (pieces text))

variable {clean : CleanSource} {file : String}

theorem lexicalFrom_nil (place : Place) : lexicalFrom clean file place [] = [] := by
  unfold lexicalFrom
  rw [pieces]
  rfl

theorem lexicalFrom_blankPiece {first : Char} {more behind : List Char}
    (blank : isBlank first = true) (cut : (firstPiece first (more ++ behind)).more = more)
    (place : Place) :
    lexicalFrom clean file place (first :: (more ++ behind)) =
      lexicalFrom clean file (place.past (first :: more)) behind := by
  have isKind : (firstPiece first (more ++ behind)).kind = none := by
    rw [firstPiece_blank blank]
  unfold lexicalFrom
  rw [pieces, cut, List.drop_left, firstPiece_eq cut isKind]
  rfl

/-- A first piece that is no blank is the first token, whatever the text is taken from and wherever
it stands there. -/
theorem lexicalFrom_piece {first : Char} {more behind : List Char} {kind : TokenKind}
    (solid : isBlank first = false)
    (front : firstPiece first (more ++ behind) = ⟨some kind, first, more⟩) (place : Place) :
    lexicalFrom clean file place (first :: (more ++ behind)) =
      ⟨kind, String.ofList (first :: more), ⟨place.position clean file,
        (place.past (first :: more)).position clean file⟩⟩ ::
        lexicalFrom clean file (place.past (first :: more)) behind := by
  obtain ⟨_, isKind, hasKind, -⟩ := firstPiece_of_solid solid (more ++ behind)
  rw [front] at isKind
  obtain rfl := Option.some.inj isKind
  unfold lexicalFrom lexicalTokens
  rw [pieces, front, List.drop_left, placeTokens]
  exact List.filter_cons_of_pos (bne_iff_ne.mpr hasKind.ne_endOfInput)

/-- A blank at the front of a text is passed. -/
theorem lexicalFrom_blank {first : Char} (blank : isBlank first = true) (place : Place)
    (rest : List Char) :
    lexicalFrom clean file place (first :: rest) =
      lexicalFrom clean file (place.after first) rest := by
  have skip (first : Char) (blank : isBlank first = true) (place : Place) (rest : List Char) :
      lexicalFrom clean file place (first :: rest) =
        lexicalFrom clean file ((place.after first).past (rest.takeWhile isBlank))
          (rest.dropWhile isBlank) := by
    have whole := List.takeWhile_append_dropWhile (p := isBlank) (l := rest)
    have cut : (firstPiece first (rest.takeWhile isBlank ++ rest.dropWhile isBlank)).more =
        rest.takeWhile isBlank := by
      rw [whole, firstPiece_blank blank]
    conv_lhs => rw [← whole]
    exact lexicalFrom_blankPiece blank cut place
  rw [skip first blank]
  cases rest with
  | nil => rfl
  | cons second rest =>
    by_cases blankSecond : isBlank second = true
    · rw [skip second blankSecond, List.takeWhile_cons_of_pos blankSecond,
        List.dropWhile_cons_of_pos blankSecond]
      rfl
    · rw [List.takeWhile_cons_of_neg blankSecond, List.dropWhile_cons_of_neg blankSecond]
      rfl

theorem lexicalFrom_blanks {front : List Char} (blank : ∀ c ∈ front, isBlank c = true)
    (place : Place) (rest : List Char) :
    lexicalFrom clean file place (front ++ rest) =
      lexicalFrom clean file (place.past front) rest := by
  induction front generalizing place with
  | nil => rfl
  | cons first more inductionHypothesis =>
    rw [List.cons_append, lexicalFrom_blank (blank first List.mem_cons_self)]
    exact inductionHypothesis (fun c member => blank c (List.mem_cons_of_mem _ member)) _

/-- What stands in front of a line feed is read as if the text ended there, and what stands behind
it as if the text began there. -/
theorem lexicalFrom_append_lineFeed (place : Place) (upper lower : List Char) :
    lexicalFrom clean file place (upper ++ '\n' :: lower) =
      lexicalFrom clean file place upper ++
        lexicalFrom clean file (place.past (upper ++ ['\n'])) lower := by
  induction upper using pieces_induction generalizing place with
  | nil => rw [List.nil_append, lexicalFrom_nil, List.nil_append, lexicalFrom_blank rfl]; rfl
  | cons first more behind cut inductionHypothesis =>
    have further : place.past (first :: (more ++ behind) ++ ['\n']) =
        (place.past (first :: more)).past (behind ++ ['\n']) := by
      rw [← Place.past_append, List.cons_append, List.cons_append, List.append_assoc]
    rw [further, List.cons_append, List.append_assoc]
    by_cases blank : isBlank first = true
    · have blanks : ∀ c ∈ first :: more, isBlank c = true :=
        List.forall_mem_cons.mpr ⟨blank, blank_of_mem_more blank cut⟩
      rw [← List.cons_append, lexicalFrom_blanks blanks, ← List.cons_append,
        lexicalFrom_blanks blanks, inductionHypothesis]
    · have solid : isBlank first = false := Bool.eq_false_iff.mpr blank
      have stays : firstPiece first (more ++ behind ++ '\n' :: lower) =
          firstPiece first (more ++ behind) :=
        firstPiece_append solid
          (fun c member => (Option.some.inj member) ▸ rfl) (not_closesQuote_lineFeed lower)
      have cutLater : (firstPiece first (more ++ (behind ++ '\n' :: lower))).more = more := by
        rw [← List.append_assoc, stays, cut]
      obtain ⟨kind, isKind, -⟩ := firstPiece_of_solid solid (more ++ behind)
      have front := firstPiece_eq cut isKind
      have frontLater : firstPiece first (more ++ (behind ++ '\n' :: lower)) =
          ⟨some kind, first, more⟩ := by
        rw [← List.append_assoc, stays, front]
      rw [lexicalFrom_piece solid front, lexicalFrom_piece solid frontLater, inductionHypothesis,
        List.cons_append]

/-! ### Places in two texts -/

/-- The second place is in the same column as the first one, a number of rows below it. -/
structure Place.Below (rows : Nat) (place other : Place) : Prop where
  row : other.row = rows + place.row
  column : other.column = place.column

theorem Place.Below.past {rows : Nat} {place other : Place} (below : place.Below rows other)
    (text : List Char) : (place.past text).Below rows (other.past text) := by
  induction text generalizing place other with
  | nil => exact below
  | cons first rest inductionHypothesis =>
    refine inductionHypothesis ?_
    unfold Place.after
    split
    · exact ⟨congrArg (· + 1) below.row, rfl⟩
    · exact ⟨below.row, congrArg (· + 1) below.column⟩

theorem Place.row_past (place : Place) (text : List Char) :
    (place.past text).row = place.row + text.count '\n' := by
  induction text generalizing place with
  | nil => rfl
  | cons first rest inductionHypothesis =>
    show ((place.after first).past rest).row = _
    rw [inductionHypothesis, List.count_cons]
    unfold Place.after
    by_cases feed : first = '\n'
    · rw [if_pos feed, if_pos (beq_iff_eq.mpr feed), Nat.add_right_comm, Nat.add_assoc]
    · rw [if_neg feed, if_neg (mt beq_iff_eq.mp feed)]
      rfl

/-! ### Tokens on lines further down -/

/-- The second position is in the same file and column as the first one, a number of lines below
it. -/
structure Position.Lowered (lines : Nat) (position other : Position) : Prop where
  line : other.line.toNat = position.line.toNat + lines
  column : other.column = position.column
  file : other.file = position.file

/-- The second token has the kind, the value and the columns of the first one, and stands a number
of lines below it. -/
structure Token.Lowered (lines : Nat) (token other : Token) : Prop where
  kind : other.kind = token.kind
  value : other.value = token.value
  start : token.span.start.Lowered lines other.span.start
  stop : token.span.stop.Lowered lines other.span.stop

theorem Position.Lowered.eq {position other : Position} (lowered : position.Lowered 0 other) :
    position = other := by
  cases position
  cases other
  obtain ⟨sameLine, rfl, rfl⟩ := lowered
  rw [Position.mk.injEq]
  exact ⟨(UInt32.toNat_inj.mp sameLine).symm, rfl, rfl⟩

theorem Token.Lowered.eq {token other : Token} (lowered : token.Lowered 0 other) :
    token = other := by
  obtain ⟨kind, value, start, stop⟩ := token
  obtain ⟨_, _, _, _⟩ := other
  obtain ⟨rfl, rfl, sameStart, sameStop⟩ := lowered
  rw [Token.mk.injEq, Span.mk.injEq]
  exact ⟨rfl, rfl, sameStart.eq, sameStop.eq⟩

theorem eq_of_forall_lowered {tokens others : List Token}
    (lowered : List.Forall₂ (Token.Lowered 0) tokens others) : tokens = others := by
  induction lowered with
  | nil => rfl
  | cons first _ inductionHypothesis => rw [first.eq, inductionHypothesis]

namespace CleanSource

variable {part whole : CleanSource} {rows lines : Nat} {place other : Place}

/-- A place in a row that the part has stands further down in the whole. -/
theorem Continues.lowered (continues : Continues part whole rows lines)
    (small : whole.lineNumbers.length < UInt32.size) (below : place.Below rows other)
    (first : 1 ≤ place.row) (last : place.row ≤ part.lineNumbers.length) :
    (place.position part file).Lowered lines (other.position whole file) := by
  obtain ⟨index, isRow⟩ := Nat.exists_eq_add_of_le' first
  have bound : index < part.lineNumbers.length := by omega
  obtain ⟨lower, found, further⟩ := continues index _ (List.getElem?_eq_getElem bound)
  obtain ⟨boundLower, isLower⟩ := List.getElem?_eq_some_iff.mp found
  -- The last row of the part has one in the whole, so its number is as small.
  have smallPart : part.lineNumbers.length < UInt32.size := by
    obtain ⟨_, foundLast, -⟩ := continues (part.lineNumbers.length - 1) _
      (List.getElem?_eq_getElem (by omega))
    have boundLast := (List.getElem?_eq_some_iff.mp foundLast).1
    omega
  refine ⟨?_, congrArg UInt32.ofNat below.column, rfl⟩
  show (whole.sourceLine (UInt32.ofNat other.row)).toNat =
    (part.sourceLine (UInt32.ofNat place.row)).toNat + lines
  rw [below.row, isRow, ← Nat.add_assoc, sourceLine_ofNat boundLower small,
    sourceLine_ofNat bound smallPart, isLower, further]

/-- A text that is read in rows of the part gives the same tokens in the whole, further down. -/
theorem Continues.lexicalFrom (continues : Continues part whole rows lines)
    (small : whole.lineNumbers.length < UInt32.size) (below : place.Below rows other)
    {text : List Char} (first : 1 ≤ place.row)
    (last : place.row + text.count '\n' ≤ part.lineNumbers.length) :
    List.Forall₂ (Token.Lowered lines) (HLang.lexicalFrom part file place text)
      (HLang.lexicalFrom whole file other text) := by
  induction text using pieces_induction generalizing place other with
  | nil =>
    rw [lexicalFrom_nil, lexicalFrom_nil]
    exact .nil
  | cons front more behind cut inductionHypothesis =>
    have past := below.past (front :: more)
    have row := place.row_past (front :: more)
    rw [← List.cons_append, List.count_append] at last
    have later := inductionHypothesis past (by omega) (by omega)
    by_cases blank : isBlank front = true
    · rw [lexicalFrom_blankPiece blank cut, lexicalFrom_blankPiece blank cut]
      exact later
    · have solid : isBlank front = false := Bool.eq_false_iff.mpr blank
      obtain ⟨kind, isKind, -⟩ := firstPiece_of_solid solid (more ++ behind)
      have piece := firstPiece_eq cut isKind
      rw [lexicalFrom_piece solid piece, lexicalFrom_piece solid piece]
      refine .cons ⟨rfl, rfl, ?_, ?_⟩ later
      · exact continues.lowered small below first (by omega)
      · exact continues.lowered small past (by omega) (by omega)

/-! ### One file below another -/

theorem length_lineNumbers_of_filled {source : String}
    (filled : (ofSource source).text.toList ≠ []) :
    (ofSource source).lineNumbers.length = (ofSource source).text.toList.count '\n' + 1 := by
  rw [length_lineNumbers, ← splitLines_text (mt text_eq_nil_iff.mpr filled), length_splitLines]

theorem lineNumbers_of_empty {source : String} (empty : (ofSource source).text.toList = []) :
    (ofSource source).lineNumbers.length = 0 := by
  rw [length_lineNumbers, text_eq_nil_iff.mp empty, List.length_nil]

/-- The tokens of a part of the whole are its own tokens, further down. -/
theorem Continues.lexicalTokens {source : String} (file : String)
    (continues : Continues (ofSource source) whole rows lines)
    (small : whole.lineNumbers.length < UInt32.size) (below : Place.start.Below rows other) :
    List.Forall₂ (Token.Lowered lines) (HLang.lexicalTokens ((ofSource source).tokens file))
      (HLang.lexicalFrom whole file other (ofSource source).text.toList) := by
  by_cases empty : (ofSource source).text.toList = []
  · have none : HLang.lexicalTokens ((ofSource source).tokens file) = [] := by
      unfold tokens
      rw [empty]
      exact lexicalFrom_nil _
    rw [none, empty, lexicalFrom_nil]
    exact .nil
  · refine continues.lexicalFrom small below (Nat.le_refl 1) (Nat.le_of_eq ?_)
    rw [length_lineNumbers_of_filled empty]
    exact Nat.add_comm 1 _

/-- The whole is read part after part, the lower one behind the rows of the upper one. -/
theorem lexicalTokens_joined (upper lower file : String) :
    ∃ place, Place.start.Below (ofSource upper).lineNumbers.length place ∧
      lexicalTokens ((ofSource (joined upper lower)).tokens file) =
        lexicalFrom (ofSource (joined upper lower)) file Place.start
          (ofSource upper).text.toList ++
        lexicalFrom (ofSource (joined upper lower)) file place (ofSource lower).text.toList := by
  have whole : lexicalTokens ((ofSource (joined upper lower)).tokens file) =
      lexicalFrom (ofSource (joined upper lower)) file Place.start
        (ofSource (joined upper lower)).text.toList := rfl
  rw [whole, text_joined]
  by_cases noUpper : (ofSource upper).text.toList = []
  · refine ⟨Place.start, ⟨?_, rfl⟩, ?_⟩
    · rw [lineNumbers_of_empty noUpper]
      rfl
    · rw [noUpper, lexicalFrom_nil, List.nil_append]
      by_cases noLower : (ofSource lower).text.toList = []
      · rw [noLower]
        rfl
      · simp [noLower, joinLines_singleton]
  · refine ⟨Place.start.past ((ofSource upper).text.toList ++ ['\n']), ⟨?_, ?_⟩, ?_⟩
    · rw [Place.row_past, List.count_append, length_lineNumbers_of_filled noUpper]
      exact Nat.add_comm _ _
    · rw [Place.past_append]
      rfl
    · by_cases noLower : (ofSource lower).text.toList = []
      · simp [noUpper, noLower, joinLines_singleton, lexicalFrom_nil]
      · rw [← lexicalFrom_append_lineFeed]
        simp [noUpper, noLower, joinLines_cons_cons, joinLines_singleton]

/-- Two files with a line feed between them are cleaned and scanned as if each stood alone. The
cleaned text has the cleaned texts of both as its rows, and of the tokens those of the upper file
stay as they are, and those of the lower one stand on lines further down, one for the line feed and
one for each in the upper file. -/
theorem ofSource_append_lineFeed (upper lower file : String)
    (few : (sourceLines (upper ++ "\n" ++ lower).toList).length < UInt32.size - 1) :
    (ofSource (upper ++ "\n" ++ lower)).text.toList =
        joinLines ([(ofSource upper).text.toList, (ofSource lower).text.toList].filter
          fun text => !text.isEmpty) ∧
      ∃ lowered, lexicalTokens ((ofSource (upper ++ "\n" ++ lower)).tokens file) =
          lexicalTokens ((ofSource upper).tokens file) ++ lowered ∧
        List.Forall₂ (Token.Lowered (1 + upper.toList.count '\n'))
          (lexicalTokens ((ofSource lower).tokens file)) lowered := by
  refine ⟨text_joined upper lower, ?_⟩
  obtain ⟨place, below, read⟩ := lexicalTokens_joined upper lower file
  have fewLines : (sourceLines (joined upper lower).toList).length < UInt32.size - 1 := few
  have small : (ofSource (joined upper lower)).lineNumbers.length < UInt32.size := by
    have bound := length_cleanRows_le (joined upper lower).toList
    rw [← length_lineNumbers] at bound
    omega
  have upperTokens := (continues_upper upper lower).lexicalTokens file small
    (⟨rfl, rfl⟩ : Place.start.Below 0 Place.start)
  have lowerTokens := (continues_lower fewLines).lexicalTokens file small below
  rw [length_splitLines, Nat.add_comm] at lowerTokens
  have same := eq_of_forall_lowered upperTokens
  refine ⟨_, ?_, lowerTokens⟩
  rw [same]
  exact read

/-- A file that ends with an open quote, a run of blanks and the front of a symbol. -/
def openQuote : String := "\n x := \"a  :"

/-- A file that begins with the end of a symbol, and has an empty line. -/
def symbolEnd : String := "= 1 ;\r\n\n \"y\""

theorem ofSource_append_lineFeed_openQuote :
    (sourceLines (openQuote ++ "\n" ++ symbolEnd).toList).length < UInt32.size - 1 ∧
      (ofSource (openQuote ++ "\n" ++ symbolEnd)).text.toList =
        "x:=\"a  :\n=1;\n\"y\"".toList ∧
      lexicalTokens ((ofSource openQuote).tokens "shell") =
        [.inColumns .identifier "x" 2 1 2, .inColumns .colonEquals ":=" 2 2 4,
          .inColumns .unknown "\"" 2 4 5, .inColumns .identifier "a" 2 5 6,
          .inColumns .colon ":" 2 8 9] ∧
      lexicalTokens ((ofSource symbolEnd).tokens "shell") =
        [.inColumns .unknown "=" 1 1 2, .inColumns .integerLiteral "1" 1 2 3,
          .inColumns .semicolon ";" 1 3 4, .inColumns .stringLiteral "\"y\"" 3 1 4] ∧
      lexicalTokens ((ofSource (openQuote ++ "\n" ++ symbolEnd)).tokens "shell") =
        lexicalTokens ((ofSource openQuote).tokens "shell") ++
          [.inColumns .unknown "=" 3 1 2, .inColumns .integerLiteral "1" 3 2 3,
            .inColumns .semicolon ";" 3 3 4, .inColumns .stringLiteral "\"y\"" 5 1 4] ∧
      List.Forall₂ (Token.Lowered 2) (lexicalTokens ((ofSource symbolEnd).tokens "shell"))
        [.inColumns .unknown "=" 3 1 2, .inColumns .integerLiteral "1" 3 2 3,
          .inColumns .semicolon ";" 3 3 4, .inColumns .stringLiteral "\"y\"" 5 1 4] := by
  have few : (sourceLines (openQuote ++ "\n" ++ symbolEnd).toList).length < UInt32.size - 1 := by
    decide
  have tokens : lexicalTokens ((ofSource (openQuote ++ "\n" ++ symbolEnd)).tokens "shell") =
      lexicalTokens ((ofSource openQuote).tokens "shell") ++
        [.inColumns .unknown "=" 3 1 2, .inColumns .integerLiteral "1" 3 2 3,
          .inColumns .semicolon ";" 3 3 4, .inColumns .stringLiteral "\"y\"" 5 1 4] := by
    decide +kernel
  obtain ⟨text, lowered, whole, lower⟩ := ofSource_append_lineFeed openQuote symbolEnd "shell" few
  obtain rfl := List.append_cancel_left (whole.symm.trans tokens)
  exact ⟨few, text.trans (by decide), by decide +kernel, by decide +kernel, tokens, lower⟩

end CleanSource

end HLang
