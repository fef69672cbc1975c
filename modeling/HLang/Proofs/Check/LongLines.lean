/-
This file proves that no column is out of reach of a fault. A string literal may be as long as its
line, and the statement behind it may fail; so a line of any length can be the one that a diagnostic
has to show, and its caret may have to be led to any column behind the first few.
-/

import HLang.Check
import HLang.Proofs.Run.Extended
import HLang.Proofs.Source.Canonical
import HLang.Proofs.Source.Places

namespace HLang

open Step

/-! ### A line on which the second statement fails -/

/-- The line `output<<"…";y:=1;`, on which a string literal is shown, and then a variable that was
never declared is assigned. -/
def shownThenAssigned (inside : List Char) : List Char :=
  ['o', 'u', 't', 'p', 'u', 't', '<', '<', '"'] ++
    (inside ++ ['"', ';', 'y', ':', '=', '1', ';'])

/-- The text can stand in a string literal, and the cleaner keeps it as it is. -/
structure LiteralText (inside : List Char) : Prop where
  stringChars : ∀ c ∈ inside, isStringChar c = true
  noReturn : '\r' ∉ inside

variable {inside : List Char}

namespace LiteralText

theorem lineFeed_not_mem (plain : LiteralText inside) : '\n' ∉ inside :=
  fun member => absurd (plain.stringChars _ member) (by decide)

/-- What stands around the literal decides whether it is on one line with it. -/
theorem lineFeed_not_mem_around (plain : LiteralText inside) {front behind : List Char}
    (noneInFront : '\n' ∉ front) (noneBehind : '\n' ∉ behind) :
    '\n' ∉ front ++ (inside ++ behind) := by
  rw [List.mem_append, List.mem_append, not_or, not_or]
  exact ⟨noneInFront, plain.lineFeed_not_mem, noneBehind⟩

theorem quote_not_mem (plain : LiteralText inside) : '"' ∉ inside :=
  fun member => absurd (plain.stringChars _ member) (by decide)

end LiteralText

theorem cleanLine_shownThenAssigned (plain : LiteralText inside) :
    cleanLine (shownThenAssigned inside) = shownThenAssigned inside := by
  show ['o', 'u', 't', 'p', 'u', 't', '<', '<', '"'] ++
    cleanFrom .quoted (inside ++ '"' :: [';', 'y', ':', '=', '1', ';']) = _
  rw [cleanFrom_quoted_closed plain.quote_not_mem plain.noReturn]
  rfl

theorem lineFeed_not_mem_shownThenAssigned (plain : LiteralText inside) :
    '\n' ∉ shownThenAssigned inside :=
  plain.lineFeed_not_mem_around (by decide) (by decide)

/-- A canonical row is the only line of its own cleaned text. -/
theorem ofSource_of_canonicalRow {row : List Char} (canonical : CanonicalRow row) :
    CleanSource.ofSource (String.ofList row) = ⟨String.ofList row, [1]⟩ := by
  have shape : (String.ofList row).toList = joinLines [row] := by
    rw [String.toList_ofList, joinLines_singleton]
  have each : ∀ other ∈ [row], CanonicalRow other := List.forall_mem_singleton.mpr canonical
  have text := CleanSource.text_ofSource_of_canonical ⟨_, shape, each⟩
  have lineNumbers := CleanSource.lineNumbers_of_canonicalRows shape each
  cases isClean : CleanSource.ofSource (String.ofList row) with
  | mk cleaned lines =>
    rw [isClean] at text lineNumbers
    exact congrArg₂ CleanSource.mk text lineNumbers

theorem ofSource_shownThenAssigned (plain : LiteralText inside) :
    CleanSource.ofSource (String.ofList (shownThenAssigned inside)) =
      ⟨String.ofList (shownThenAssigned inside), [1]⟩ := by
  have filled : cleanLine (shownThenAssigned inside) ≠ [] := by
    rw [cleanLine_shownThenAssigned plain]
    exact List.cons_ne_nil _ _
  refine ofSource_of_canonicalRow ?_
  rw [← cleanLine_shownThenAssigned plain]
  exact canonicalRow_cleanLine (lineFeed_not_mem_shownThenAssigned plain) filled

/-! ### Its tokens -/

theorem pieces_of_firstPiece {first : Char} {more behind : List Char} {kind : Option TokenKind}
    (front : firstPiece first (more ++ behind) = ⟨kind, first, more⟩) :
    pieces (first :: (more ++ behind)) = ⟨kind, first, more⟩ :: pieces behind := by
  rw [pieces, front, List.drop_left]

theorem pieces_shownThenAssigned (plain : LiteralText inside) :
    pieces (shownThenAssigned inside) =
      [⟨some .outputWord, 'o', ['u', 't', 'p', 'u', 't']⟩, ⟨some .lessLess, '<', ['<']⟩,
        ⟨some .stringLiteral, '"', inside ++ ['"']⟩, ⟨some .semicolon, ';', []⟩,
        ⟨some .identifier, 'y', []⟩, ⟨some .colonEquals, ':', ['=']⟩,
        ⟨some .integerLiteral, '1', []⟩, ⟨some .semicolon, ';', []⟩] := by
  have cut : shownThenAssigned inside = 'o' :: (['u', 't', 'p', 'u', 't'] ++ '<' :: (['<'] ++
      '"' :: ((inside ++ ['"']) ++ [';', 'y', ':', '=', '1', ';']))) := by
    unfold shownThenAssigned
    rw [List.append_assoc inside]
    rfl
  have literal : firstPiece '"' ((inside ++ ['"']) ++ [';', 'y', ':', '=', '1', ';']) =
      ⟨some .stringLiteral, '"', inside ++ ['"']⟩ := by
    rw [List.append_assoc]
    exact stringPiece_closed plain.stringChars _
  have later : pieces [';', 'y', ':', '=', '1', ';'] = [⟨some .semicolon, ';', []⟩,
      ⟨some .identifier, 'y', []⟩, ⟨some .colonEquals, ':', ['=']⟩,
      ⟨some .integerLiteral, '1', []⟩, ⟨some .semicolon, ';', []⟩] := by decide +kernel
  have word : firstPiece 'o' (['u', 't', 'p', 'u', 't'] ++ '<' :: (['<'] ++
      '"' :: ((inside ++ ['"']) ++ [';', 'y', ':', '=', '1', ';']))) =
      ⟨some .outputWord, 'o', ['u', 't', 'p', 'u', 't']⟩ := rfl
  have sign : firstPiece '<' (['<'] ++
      '"' :: ((inside ++ ['"']) ++ [';', 'y', ':', '=', '1', ';'])) =
      ⟨some .lessLess, '<', ['<']⟩ := rfl
  rw [cut, pieces_of_firstPiece word, pieces_of_firstPiece sign, pieces_of_firstPiece literal,
    later]

/-- If the first statement of a run succeeds and the one behind it fails, so does the run. -/
theorem validate_of_second_fails {tokens : List Token} {file : String} {first : Statement}
    {diagnosis : Diagnosis} :
    let opened := (Session.start tokens file).registerGrammar
    let between := (statement opened).2
    opened.hasTokens = true → (statement opened).1 = .ok first → between.hasTokens = true →
      (statement between).1 = .error diagnosis →
      (validate tokens file).outcome = .error diagnosis := by
  intro opened between begun succeeds more fails
  have later : Fails Session.statements between diagnosis (statement between).2 := by
    unfold Fails
    rw [Session.statements_of_hasTokens more]
    exact fails_bind_iff.mpr (Or.inl (Prod.ext fails rfl))
  have whole : Fails Session.statements opened diagnosis (statement between).2 := by
    unfold Fails
    rw [Session.statements_of_hasTokens begun]
    exact fails_bind_iff.mpr (Or.inr ⟨first, between, Prod.ext succeeds rfl,
      fails_bind_iff.mpr (Or.inl later)⟩)
  exact congrArg Prod.fst whole

/-- Whatever the tokens of the line read and wherever they stand, the second statement fails, and the
run with it. -/
theorem validate_shownThenAssigned {tokens : List Token} {target : Token} (file : String)
    (kinds : tokens.map Token.kind = [.outputWord, .lessLess, .stringLiteral, .semicolon,
      .identifier, .colonEquals, .integerLiteral, .semicolon, .endOfInput])
    (isTarget : tokens[4]? = some target) :
    (validate tokens file).outcome =
      .error ⟨.undeclaredIdentifier target.value, target.span.start⟩ := by
  simp only [List.map_eq_cons_iff, List.map_eq_nil_iff] at kinds
  obtain ⟨⟨_, word, wordSpan⟩, _, rfl, rfl, ⟨_, shift, shiftSpan⟩, _, rfl, rfl,
    ⟨_, literal, literalSpan⟩, _, rfl, rfl, ⟨_, closing, closingSpan⟩, _, rfl, rfl,
    ⟨_, name, nameSpan⟩, _, rfl, rfl, ⟨_, sign, signSpan⟩, _, rfl, rfl,
    ⟨_, number, numberSpan⟩, _, rfl, rfl, ⟨_, ending, endingSpan⟩, _, rfl, rfl,
    ⟨_, last, lastSpan⟩, _, rfl, rfl, rfl⟩ := kinds
  obtain rfl := Option.some.inj isTarget
  exact validate_of_second_fails rfl rfl rfl rfl

/-- The front of the line up to the second statement. -/
def shownFirst (inside : List Char) : List Char :=
  ['o', 'u', 't', 'p', 'u', 't', '<', '<', '"'] ++ (inside ++ ['"', ';'])

theorem column_shownFirst (plain : LiteralText inside) :
    (Place.start.past (shownFirst inside)).column = inside.length + 12 := by
  have sameRow : '\n' ∉ shownFirst inside :=
    plain.lineFeed_not_mem_around (by decide) (by decide)
  have row : lastRow (shownFirst inside) = shownFirst inside := (rows_append sameRow []).2
  rw [(Place.behind_past_start _).column, row, shownFirst, List.length_append, List.length_append]
  show 9 + (inside.length + 2) + 1 = _
  omega

/-- The tokens of the line: their kinds, and the target of the second statement. -/
theorem tokens_shownThenAssigned (plain : LiteralText inside) (file : String) :
    let clean : CleanSource := ⟨String.ofList (shownThenAssigned inside), [1]⟩
    (clean.tokens file).map Token.kind = [.outputWord, .lessLess, .stringLiteral, .semicolon,
      .identifier, .colonEquals, .integerLiteral, .semicolon, .endOfInput] ∧
    (clean.tokens file)[4]? = some ⟨.identifier, "y",
      ⟨(Place.start.past (shownFirst inside)).position clean file,
        ((Place.start.past (shownFirst inside)).after 'y').position clean file⟩⟩ := by
  intro clean
  have front : shownFirst inside =
      ['o', 'u', 't', 'p', 'u', 't'] ++ ['<', '<'] ++ '"' :: (inside ++ ['"']) ++ [';'] := by
    simp [shownFirst]
  unfold CleanSource.tokens
  rw [String.toList_ofList, pieces_shownThenAssigned plain, front, Place.past_append,
    Place.past_append, Place.past_append]
  exact ⟨rfl, rfl⟩

/-! ### Its fault -/

/-- Every row of a text with one line is given that line. -/
theorem sourceLine_oneLine (text : String) (line row : UInt32) :
    CleanSource.sourceLine ⟨text, [line]⟩ row = line := by
  unfold CleanSource.sourceLine
  split
  · rename_i found
    split at found
    · exact nomatch found
    · exact List.mem_singleton.mp (List.mem_of_getElem? found)
  · rfl

/-- Behind the literal, the fault stands as far to the right as the literal is long. -/
theorem verdict_shownThenAssigned (plain : LiteralText inside) (file : Option String) :
    (Check.ofSource (String.ofList (shownThenAssigned inside)) file).verdict =
      .rejected ⟨.undeclaredIdentifier "y",
        ⟨1, UInt32.ofNat (inside.length + 12), sourceName file⟩⟩ := by
  obtain ⟨kinds, isTarget⟩ := tokens_shownThenAssigned plain (sourceName file)
  have failed := validate_shownThenAssigned (sourceName file) kinds isTarget
  show Verdict.ofOutcome (validate (CleanSource.tokens _ _) _).outcome = _
  rw [ofSource_shownThenAssigned plain, failed, Place.position, column_shownFirst plain,
    sourceLine_oneLine]
  rfl

theorem literalText_replicate (length : Nat) : LiteralText (List.replicate length 'a') :=
  ⟨fun _ member => List.eq_of_mem_replicate member ▸ rfl,
    fun member => absurd (List.eq_of_mem_replicate member) (by decide)⟩

/-- Every column behind the first few is that of a fault in some file. -/
theorem exists_rejected_at_column (column : UInt32) (behind : 12 ≤ column) (file : Option String) :
    ∃ source diagnosis, (Check.ofSource source file).verdict = .rejected diagnosis ∧
      diagnosis.position.column = column := by
  refine ⟨_, _, verdict_shownThenAssigned (literalText_replicate (column.toNat - 12)) file, ?_⟩
  have count : column.toNat - 12 + 12 = column.toNat := Nat.sub_add_cancel behind
  rw [List.length_replicate, count, UInt32.ofNat_toNat]

end HLang
