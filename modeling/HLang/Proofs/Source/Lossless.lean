/-
This file proves that cleaning loses nothing: scanning the cleaned text finds the lexemes that
scanning the source itself would find. Line by line, the induction is on the pieces of the line.
A piece that is a lexeme is kept, and what follows it in the cleaned line starts as before, or
needs no separator from it, so the scanner takes the same piece there. The one condition is that
no carriage return between quotes is lost.
-/

import HLang.Proofs.Source.Quotes
import HLang.Proofs.Token.Lexemes

namespace HLang

/-! ### What the cleaner writes -/

theorem lexemes_gap (last : Option Char) (skipped : Bool) (c : Char) (rest : List Char) :
    lexemes (gap last skipped c ++ rest) = lexemes rest := by
  unfold gap
  split
  · exact lexemes_blank rfl rest
  · rfl

/-- After whitespace, the cleaner goes on with something that needs no separator. -/
theorem apart_cleanFrom_skipped (last : Char) (rest : List Char) :
    Apart last (cleanFrom (.plain (some last) true) rest) := by
  induction rest with
  | nil => exact fun next member => absurd member (Option.not_mem_none next)
  | cons c rest inductionHypothesis =>
    by_cases blank : isBlank c = true
    · rw [cleanFrom_blank blank]
      exact inductionHypothesis
    · rw [cleanFrom, if_neg blank]
      unfold gap
      rw [Bool.true_and, Option.any_some]
      by_cases close : needsSeparator last c = true
      · rw [if_pos close]
        exact apart_of_blank (fun next member => by
          obtain rfl := Option.some.inj member
          rfl) last
      · rw [if_neg close]
        intro next member
        obtain rfl := Option.some.inj member
        exact Bool.eq_false_iff.mpr close

/-- The cleaned rest of a line starts as the rest does, or needs no separator. -/
theorem cleanFrom_head?_or (last : Char) (rest : List Char) :
    (cleanFrom (.plain (some last) false) rest).head? = rest.head? ∨
      Apart last (cleanFrom (.plain (some last) false) rest) := by
  cases rest with
  | nil => exact Or.inl rfl
  | cons c rest =>
    by_cases blank : isBlank c = true
    · rw [cleanFrom_blank blank]
      exact Or.inr (apart_cleanFrom_skipped last rest)
    · rw [cleanFrom, if_neg blank]
      exact Or.inl rfl

/-! ### Lines -/

theorem solid_of_isNumberChar {c : Char} (numberChar : isNumberChar c = true) :
    isBlank c = false ∧ c ≠ '"' := by
  refine ⟨isBlank_of_isNumberChar numberChar, ?_⟩
  rintro rfl
  exact absurd numberChar (by decide)

/-- Past its first character, a lexeme holds neither blanks nor quotes. -/
theorem solid_of_mem_more {first : Char} (solid : isBlank first = false) (unquoted : first ≠ '"')
    (rest : List Char) : ∀ c ∈ (firstPiece first rest).more, isBlank c = false ∧ c ≠ '"' := by
  by_cases digit : first.isDigit = true
  · rw [firstPiece_digit digit]
    exact fun c member =>
      solid_of_isNumberChar (List.all_eq_true.mp List.all_takeWhile c member)
  by_cases letter : first.isAlpha = true
  · rw [firstPiece_letter letter]
    exact fun c member => solid_of_isNumberChar
      (isNumberChar_of_isAlphanum (List.all_eq_true.mp List.all_takeWhile c member))
  rw [firstPiece_symbol solid digit letter unquoted]
  intro c member
  cases rest with
  | nil => exact absurd member List.not_mem_nil
  | cons second rest =>
    cases pair : pairKind first second with
    | none =>
      rw [symbolPiece_of_single fun next among => Option.mem_some.mp among ▸ pair] at member
      exact absurd member List.not_mem_nil
    | some kind =>
      rw [symbolPiece_of_pair pair, List.mem_singleton] at member
      rcases second_of_pairKind pair with rfl | rfl
      · rw [member]
        decide
      · rw [member]
        decide

theorem quote_not_mem_of_not_closesQuote {row : List Char} (sameLine : '\n' ∉ row)
    (never : ¬ ClosesQuote row) : '"' ∉ row := by
  intro member
  obtain ⟨inside, tail, rfl, first⟩ := List.eq_append_cons_of_mem member
  exact never ⟨inside, tail, rfl, isStringChar_of_not_mem first fun among =>
    sameLine (List.mem_append_left _ among)⟩

theorem lexemes_quote_open {rest : List Char} (never : ¬ ClosesQuote rest) :
    lexemes ('"' :: rest) = (.unknown, String.ofList ['"']) :: lexemes rest := by
  have front : firstPiece '"' ([] ++ rest) = ⟨some .unknown, '"', []⟩ := stringPiece_open never
  exact lexemes_of_firstPiece front

theorem lexemes_quote_closed {inside : List Char} (plain : ∀ c ∈ inside, isStringChar c = true)
    (rest : List Char) :
    lexemes ('"' :: (inside ++ '"' :: rest)) =
      (.stringLiteral, String.ofList ('"' :: (inside ++ ['"']))) :: lexemes rest := by
  have front : firstPiece '"' ((inside ++ ['"']) ++ rest) =
      ⟨some .stringLiteral, '"', inside ++ ['"']⟩ := by
    rw [List.append_assoc]
    exact stringPiece_closed plain rest
  have read := lexemes_of_firstPiece front
  rwa [List.append_assoc] at read

/-- Cleaning a line that starts with a string literal keeps the literal. -/
theorem lexemes_cleanFrom_closed {inside behind : List Char}
    (plain : ∀ c ∈ inside, isStringChar c = true) (noReturn : '\r' ∉ inside) (last : Option Char)
    (skipped : Bool) :
    lexemes (cleanFrom (.plain last skipped) ('"' :: (inside ++ '"' :: behind))) =
      (.stringLiteral, String.ofList ('"' :: (inside ++ ['"']))) ::
        lexemes (cleanFrom (.plain (some '"') false) behind) := by
  have unquoted : '"' ∉ inside := fun member => (isStringChar_iff.mp (plain '"' member)).1 rfl
  rw [cleanFrom_quote, lexemes_gap, cleanFrom_quoted_closed unquoted noReturn,
    lexemes_quote_closed plain]

/-- Cleaning a line from a quote on that is not closed drops a carriage return at most. -/
theorem lexemes_cleanFrom_open {rest : List Char} (sameLine : '\n' ∉ rest)
    (keeps : KeepsQuotes true rest) (never : ¬ ClosesQuote rest) (last : Option Char)
    (skipped : Bool) :
    lexemes (cleanFrom (.plain last skipped) ('"' :: rest)) = lexemes ('"' :: rest) := by
  have unquoted := quote_not_mem_of_not_closesQuote sameLine never
  have still : ¬ ClosesQuote (rest.filter (· ≠ '\r')) := fun closes =>
    unquoted (List.mem_filter.mp (quote_mem_of_closesQuote closes)).1
  rw [cleanFrom_quote, lexemes_gap, cleanFrom_quoted_open unquoted, lexemes_quote_open never,
    lexemes_quote_open still]
  rcases filter_return_of_keepsQuotes unquoted sameLine keeps with same | lost
  · rw [same]
  · rw [← lexemes_append_return (rest.filter (· ≠ '\r')), ← lost]

/-- Cleaning a line that starts with any other lexeme keeps that lexeme. -/
theorem lexemes_cleanFrom_solid {first : Char} {more behind : List Char}
    (solid : isBlank first = false) (quote : first ≠ '"')
    (cut : (firstPiece first (more ++ behind)).more = more) (last : Option Char)
    (skipped : Bool) :
    lexemes (cleanFrom (.plain last skipped) (first :: (more ++ behind))) =
      (firstPiece first (more ++ behind)).lexeme?.toList ++
        lexemes (cleanFrom (.plain (some (more.getLastD first)) false) behind) := by
  have solids : ∀ c ∈ more, isBlank c = false ∧ c ≠ '"' :=
    cut ▸ solid_of_mem_more solid quote (more ++ behind)
  have same := firstPiece_append_congr solid quote cut (cleanFrom_head?_or _ behind)
  have cutClean : (firstPiece first
      (more ++ cleanFrom (.plain (some (more.getLastD first)) false) behind)).more = more := by
    rw [same, cut]
  rw [cleanFrom_solid solid quote, lexemes_gap, cleanFrom_solids solids, lexemes_cut cutClean, same]

/-- Cleaning a line keeps its lexemes. -/
theorem lexemes_cleanFrom {row : List Char} (sameLine : '\n' ∉ row)
    (keeps : KeepsQuotes false row) (last : Option Char) (skipped : Bool) :
    lexemes (cleanFrom (.plain last skipped) row) = lexemes row := by
  induction row using pieces_induction generalizing last skipped with
  | nil => rfl
  | cons first more behind cut inductionHypothesis =>
    have sameLineLater : '\n' ∉ more ++ behind := fun member =>
      sameLine (List.mem_cons_of_mem first member)
    have later (unquoted : '"' ∉ first :: more) := inductionHypothesis
      (fun member => sameLineLater (List.mem_append_right more member))
      ((keepsQuotes_unquoted_append_iff unquoted behind).mp keeps)
    by_cases blank : isBlank first = true
    · have blanks : ∀ c ∈ first :: more, isBlank c = true :=
        List.forall_mem_cons.mpr ⟨blank, blank_of_mem_more blank cut⟩
      have unquoted := quote_not_mem_of_blank blanks
      rw [cleanFrom_blank blank, cleanFrom_blanks (blank_of_mem_more blank cut),
        ← List.cons_append, lexemes_blanks blanks, later unquoted]
    have solid : isBlank first = false := Bool.eq_false_iff.mpr blank
    by_cases quote : first = '"'
    · subst quote
      obtain ⟨-, keepsRest⟩ := keeps
      by_cases closed : ClosesQuote (more ++ behind)
      · obtain ⟨inside, tail, shape, plain⟩ := closed
        rw [firstPiece_quote, shape, stringPiece_closed plain] at cut
        obtain rfl := cut
        obtain rfl : behind = tail := by simpa using shape
        rw [shape] at keepsRest sameLineLater ⊢
        obtain ⟨noReturn, keepsLater⟩ := (keepsQuotes_literal_iff plain behind).mp keepsRest
        have same := inductionHypothesis (fun member => sameLineLater
          (List.mem_append_right inside (List.mem_cons_of_mem '"' member))) keepsLater
        rw [lexemes_cleanFrom_closed plain noReturn, lexemes_quote_closed plain, same]
      · exact lexemes_cleanFrom_open sameLineLater keepsRest closed last skipped
    · have solids : ∀ c ∈ more, isBlank c = false ∧ c ≠ '"' :=
        cut ▸ solid_of_mem_more solid quote (more ++ behind)
      have unquoted : '"' ∉ first :: more := by
        intro member
        rcases List.mem_cons.mp member with rfl | among
        · exact quote rfl
        · exact (solids '"' among).2 rfl
      rw [lexemes_cleanFrom_solid solid quote cut, lexemes_cut cut, later unquoted]

/-! ### Files -/

/-- Cleaning a source that keeps its quotes keeps its lexemes. -/
theorem lexemes_ofSource {source : String} (keeps : KeepsQuotes false source.toList) :
    lexemes (CleanSource.ofSource source).text.toList = lexemes source.toList := by
  have rows : KeepsQuotes false (joinLines (splitLines source.toList)) := by
    rwa [joinLines_splitLines]
  have cleanRow : ∀ row ∈ splitLines source.toList, lexemes (cleanLine row) = lexemes row :=
    fun row member => lexemes_cleanFrom (lineFeed_not_mem_splitLines _ row member)
      (keepsQuotes_of_mem_rows rows row member) none false
  calc lexemes (CleanSource.ofSource source).text.toList
      = (CleanSource.cleanRows source.toList).flatMap lexemes := by
        rw [CleanSource.text_ofSource, lexemes_joinLines]
    _ = (sourceLines source.toList).flatMap fun line => lexemes (cleanLine line) :=
        CleanSource.flatMap_cleanRows lexemes_nil source.toList
    _ = (splitLines source.toList).flatMap fun row => lexemes (cleanLine row) :=
        flatMap_linesOfRows (fun row => lexemes (cleanLine row))
          (fun row => congrArg lexemes (cleanLine_append_return row)) lexemes_nil _
    _ = (splitLines source.toList).flatMap lexemes :=
        congrArg List.flatten (List.map_congr_left cleanRow)
    _ = lexemes source.toList := by
        rw [← lexemes_joinLines, joinLines_splitLines]

/-- If every carriage return of a source belongs to a line end, the tokens of the cleaned source
are, but for their places, those of the source scanned as it is. -/
theorem map_lexeme_tokens_ofSource (source : String) (file : String) (lineNumbers : List UInt32)
    (returns : ∀ before after, source.toList = before ++ '\r' :: after →
      after.head? = some '\n') :
    ((CleanSource.ofSource source).tokens file).map Token.lexeme =
      (CleanSource.tokens ⟨source, lineNumbers⟩ file).map Token.lexeme := by
  rw [map_lexeme_tokens, map_lexeme_tokens, lexemes_ofSource (keepsQuotes_of_returns returns false)]

/-- Words, an open quote and a split symbol, on lines that are ended in the foreign way. -/
theorem map_lexeme_tokens_ofSource_openQuote :
    (∀ before after, "1 .5 \"a  b\r\n\r\n<\t< =".toList = before ++ '\r' :: after →
      after.head? = some '\n') ∧
    ((CleanSource.ofSource "1 .5 \"a  b\r\n\r\n<\t< =").tokens "shell").map Token.lexeme =
      (CleanSource.tokens ⟨"1 .5 \"a  b\r\n\r\n<\t< =", []⟩ "shell").map Token.lexeme := by
  have returns : ∀ before after, "1 .5 \"a  b\r\n\r\n<\t< =".toList = before ++ '\r' :: after →
      after.head? = some '\n' := by
    intro before after shape
    have each : ∀ index < 19, "1 .5 \"a  b\r\n\r\n<\t< =".toList[index]? = some '\r' →
        "1 .5 \"a  b\r\n\r\n<\t< =".toList[index + 1]? = some '\n' := by decide
    rw [shape] at each
    have size : 19 = (before ++ '\r' :: after).length := shape ▸ by decide
    have next := each before.length (by rw [size, List.length_append, List.length_cons]; omega)
      (by rw [List.getElem?_append_right (Nat.le_refl _), Nat.sub_self, List.getElem?_cons_zero])
    rwa [List.getElem?_append_right (Nat.le_add_right _ _), Nat.add_sub_cancel_left,
      List.getElem?_cons_succ, ← List.head?_eq_getElem?] at next
  exact ⟨returns, map_lexeme_tokens_ofSource _ "shell" [] returns⟩

end HLang
