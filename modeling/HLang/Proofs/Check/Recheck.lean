/-
This file checks a cleaned text once more. Cleaning a cleaned text changes nothing but its line
numbers, because the rows of a cleaned text are its lines. The scanner and the checker look at line
numbers only to report them, so both checks tell the same story on other lines: the line map of the
first check leads from each line that the second one names to the line that the first one names.
-/

import HLang.Check
import HLang.Proofs.Session.Relabelling
import HLang.Proofs.Source.LineMap

namespace HLang

/-! ### Other line numbers -/

variable (lines : UInt32 → UInt32)

def Position.onLine (position : Position) : Position :=
  { position with line := lines position.line }

/-- The token on another line; its kind, its value and its columns are the same. -/
def Token.onLine (token : Token) : Token :=
  { token with span := ⟨token.span.start.onLine lines, token.span.stop.onLine lines⟩ }

/-- The verdict reported on another line; the fault and its column are the same. -/
def Verdict.onLine : Verdict → Verdict
  | .accepted => .accepted
  | .rejected diagnosis =>
    .rejected { diagnosis with position := diagnosis.position.onLine lines }

/-- Other line numbers as new labels. -/
def Relabelling.ofLines : Relabelling :=
  ⟨id, Position.onLine lines, fun _ _ same => same⟩

theorem Relabelling.word_ofLines (kind : TokenKind) (text : String) :
    (ofLines lines).word kind text = text :=
  ite_self text

theorem Token.relabel_ofLines (token : Token) :
    token.relabel (.ofLines lines) = token.onLine lines := by
  unfold relabel onLine
  rw [Relabelling.word_ofLines]
  rfl

theorem Fault.relabel_ofLines (kind : TokenKind) (fault : Fault) :
    fault.relabel (.ofLines lines) kind = fault := by
  cases fault <;> simp only [relabel, Relabelling.word_ofLines] <;> rfl

/-- Tokens on other lines are checked with the same verdict on another line. -/
theorem ofOutcome_validate_onLine {tokens : List Token} (notEmpty : tokens ≠ []) (file : String) :
    Verdict.ofOutcome (validate (tokens.map (Token.onLine lines)) file).outcome =
      (Verdict.ofOutcome (validate tokens file).outcome).onLine lines := by
  have same : tokens.map (Token.onLine lines) = tokens.map (Token.relabel (.ofLines lines)) :=
    List.map_congr_left fun token _ => (token.relabel_ofLines lines).symm
  rw [same, validate_map_relabel (.ofLines lines) notEmpty]
  unfold Validation.relabel
  cases (validate tokens file).outcome with
  | ok statements => rfl
  | error diagnosis =>
    show Verdict.rejected ⟨diagnosis.fault.relabel (.ofLines lines) _, _⟩ = _
    rw [Fault.relabel_ofLines]
    rfl

theorem reportEntries_onLine (tokens : List Token) :
    reportEntries (tokens.map (Token.onLine lines)) = reportEntries tokens := by
  unfold reportEntries
  rw [List.filterMap_map]
  rfl

theorem Verdict.isAccepted_onLine (verdict : Verdict) :
    (verdict.onLine lines).isAccepted = verdict.isAccepted := by
  cases verdict <;> rfl

theorem Verdict.failingLine?_onLine (verdict : Verdict) :
    (verdict.onLine lines).failingLine? = verdict.failingLine?.map lines := by
  cases verdict <;> rfl

/-- The scanner reads the line map only to number the tokens. -/
theorem placeTokens_onLine {clean other : CleanSource}
    (mapped : ∀ row, clean.sourceLine row = lines (other.sourceLine row)) (file : String)
    (place : Place) (pieces : List Piece) :
    placeTokens clean file place pieces =
      (placeTokens other file place pieces).map (Token.onLine lines) := by
  have position (place : Place) :
      place.position clean file = (place.position other file).onLine lines := by
    unfold Place.position
    rw [mapped]
    rfl
  induction pieces generalizing place with
  | nil => simp only [placeTokens, position, List.map_cons, List.map_nil]; rfl
  | cons piece more inductionHypothesis =>
    simp only [placeTokens]
    cases piece.kind with
    | none => exact inductionHypothesis _
    | some kind => simp only [position, inductionHypothesis, List.map_cons]; rfl

theorem placeTokens_ne_nil (clean : CleanSource) (file : String) (place : Place)
    (pieces : List Piece) : placeTokens clean file place pieces ≠ [] := by
  induction pieces generalizing place with
  | nil => exact List.cons_ne_nil _ _
  | cons piece more inductionHypothesis =>
    simp only [placeTokens]
    cases piece.kind with
    | none => exact inductionHypothesis _
    | some kind => exact List.cons_ne_nil _ _

/-! ### The lines of a cleaned text -/

namespace CleanSource

/-- A row that does not exist is given the last line. -/
theorem sourceLine_beyond {clean : CleanSource} {row : UInt32}
    (beyond : row = 0 ∨ clean.lineCount < row.toNat) :
    clean.sourceLine row = clean.lineNumbers.getLast?.getD row := by
  unfold sourceLine
  rcases beyond with rfl | beyond
  · rfl
  · have notZero : row ≠ 0 := by
      rintro rfl
      exact absurd beyond (Nat.not_lt_zero _)
    rw [if_neg notZero, List.getElem?_eq_none (by unfold lineCount at beyond; omega)]

/-- The lines of a cleaned text are its rows, numbered one after the other. -/
theorem lineNumbers_ofSource_text (source : String) :
    (ofSource (ofSource source).text).lineNumbers =
      ((cleanRows source.toList).zipIdx 1).map fun entry => UInt32.ofNat entry.2 :=
  lineNumbers_of_canonicalRows (text_ofSource source) fun _ => canonicalRow_of_mem_cleanRows

theorem lineCount_ofSource_text (source : String) :
    (ofSource (ofSource source).text).lineCount = (ofSource source).lineCount := by
  unfold lineCount
  rw [lineNumbers_ofSource_text, List.length_map, List.length_zipIdx, length_lineNumbers]

/-- The last line of a cleaned text is numbered by the count of its lines. -/
theorem getLast?_lineNumbers_ofSource_text {source : String}
    (kept : (ofSource source).lineNumbers ≠ []) :
    (ofSource (ofSource source).text).lineNumbers.getLast? =
      some (UInt32.ofNat (ofSource source).lineCount) := by
  have count := length_lineNumbers source
  have positive := List.length_pos_iff.mpr kept
  rw [count] at positive
  rw [lineNumbers_ofSource_text, List.getLast?_map, List.getLast?_zipIdx, lineCount, count,
    List.getLast?_eq_some_getLast (List.length_pos_iff.mp positive)]
  show some (UInt32.ofNat (1 + _ - 1)) = _
  rw [Nat.add_sub_cancel_left]

/-- The line map of a cleaned text leads from a row to that row, or to the last one. So it makes no
difference to the line map of the file whether it comes first. -/
theorem sourceLine_sourceLine_text {source : String}
    (few : (sourceLines source.toList).length < UInt32.size - 1) (row : UInt32) :
    (ofSource source).sourceLine row =
      (ofSource source).sourceLine ((ofSource (ofSource source).text).sourceLine row) := by
  have same := lineCount_ofSource_text source
  by_cases inside : 1 ≤ row ∧ row.toNat ≤ (ofSource (ofSource source).text).lineCount
  · rw [sourceLine_of_canonical (canonical_text_ofSource source) inside.1 inside.2]
  · have beyond : row = 0 ∨ (ofSource (ofSource source).text).lineCount < row.toNat := by
      rw [← UInt32.toNat_inj, UInt32.toNat_zero]
      rw [UInt32.le_iff_toNat_le, show (1 : UInt32).toNat = 1 from rfl] at inside
      omega
    rw [sourceLine_beyond beyond]
    by_cases kept : (ofSource source).lineNumbers = []
    · have none : (ofSource (ofSource source).text).lineNumbers = [] :=
        List.eq_nil_of_length_eq_zero (same.trans (congrArg List.length kept))
      rw [none]
      rfl
    · have atMost := length_cleanRows_le source.toList
      have positive := List.length_pos_iff.mpr kept
      rw [← length_lineNumbers] at atMost
      have last := sourceLine_ofNat (Nat.sub_one_lt_of_lt positive) (by omega)
      rw [Nat.sub_add_cancel positive] at last
      rw [getLast?_lineNumbers_ofSource_text kept, Option.getD_some, lineCount, last,
        sourceLine_beyond (same ▸ beyond), List.getLast?_eq_getElem?,
        List.getElem?_eq_getElem (Nat.sub_one_lt_of_lt positive), Option.getD_some]

end CleanSource

/-! ### Checking twice -/

namespace Check

/-- The checks found the same in the same cleaned text, the first one on other lines. -/
structure Relined (check other : Check) : Prop where
  text : check.clean.text = other.clean.text
  tokens : check.tokens = other.tokens.map (Token.onLine lines)
  verdict : check.verdict = other.verdict.onLine lines

/-- The same cleaned text is checked alike under two line maps, if the one can be told from the
other. -/
theorem relined_ofTokens {lines : UInt32 → UInt32} {clean other : CleanSource}
    (text : clean.text = other.text)
    (mapped : ∀ row, clean.sourceLine row = lines (other.sourceLine row)) (file : String) :
    Relined lines (ofTokens clean (clean.tokens file) file)
      (ofTokens other (other.tokens file) file) := by
  have tokens : clean.tokens file = (other.tokens file).map (Token.onLine lines) := by
    unfold CleanSource.tokens
    rw [text]
    exact placeTokens_onLine lines mapped _ _ _
  have notEmpty : other.tokens file ≠ [] := placeTokens_ne_nil _ _ _ _
  refine ⟨text, tokens, ?_⟩
  show Verdict.ofOutcome (validate (clean.tokens file) file).outcome = _
  rw [tokens]
  exact ofOutcome_validate_onLine lines notEmpty _

namespace Relined

variable {lines} {check other : Check}

theorem entries (relined : Relined lines check other) : check.entries = other.entries := by
  unfold Check.entries
  rw [relined.tokens, reportEntries_onLine]

theorem isAccepted (relined : Relined lines check other) :
    check.verdict.isAccepted = other.verdict.isAccepted := by
  rw [relined.verdict, Verdict.isAccepted_onLine]

theorem failingLine? (relined : Relined lines check other) :
    check.verdict.failingLine? = other.verdict.failingLine?.map lines := by
  rw [relined.verdict, Verdict.failingLine?_onLine]

end Relined

/-- The check of a cleaned text finds what the check of the file found: the same text, the same
tokens and report, and the same verdict. Only lines are counted anew, and the line map of the file
leads back to its own. -/
theorem ofSource_text_ofSource {source : String} (file : Option String)
    (few : (sourceLines source.toList).length < UInt32.size - 1) :
    let check := ofSource source file
    let again := ofSource check.clean.text file
    again.clean.text = check.clean.text ∧
      check.tokens = again.tokens.map (Token.onLine check.clean.sourceLine) ∧
      check.entries = again.entries ∧
      check.verdict = again.verdict.onLine check.clean.sourceLine ∧
      check.verdict.isAccepted = again.verdict.isAccepted ∧
      check.verdict.failingLine? = again.verdict.failingLine?.map check.clean.sourceLine := by
  intro check again
  have text : (CleanSource.ofSource (CleanSource.ofSource source).text).text = _ :=
    CleanSource.text_ofSource_of_canonical (CleanSource.canonical_text_ofSource source)
  have relined : Relined check.clean.sourceLine check again :=
    relined_ofTokens text.symm (CleanSource.sourceLine_sourceLine_text few) (sourceName file)
  exact ⟨text, relined.tokens, relined.entries, relined.verdict, relined.isAccepted,
    relined.failingLine?⟩

/-- A file of which two lines are dropped, and that is rejected on its last line. -/
theorem ofSource_text_ofSource_droppedLines :
    (sourceLines "\n x : integer ;\n\t\nx := y".toList).length < UInt32.size - 1 ∧
    (ofSource "\n x : integer ;\n\t\nx := y" none).verdict =
      (ofSource "x:integer;\nx:=y" none).verdict.onLine
        (CleanSource.ofSource "\n x : integer ;\n\t\nx := y").sourceLine := by
  have few : (sourceLines "\n x : integer ;\n\t\nx := y".toList).length < UInt32.size - 1 := by
    decide
  obtain ⟨-, -, -, verdict, -⟩ := ofSource_text_ofSource none few
  have text : (CleanSource.ofSource "\n x : integer ;\n\t\nx := y").text =
    "x:integer;\nx:=y" := by decide
  exact ⟨few, text ▸ verdict⟩

end Check

end HLang
