/-
This file proves that the diagnostic of a file points at the statement that failed. The line of the
fault is always one that was kept, because every place in a cleaned text is on such a line. So the
diagnostic shows its text, and the caret stands in the column where the statement begins.

Numbers of lines and columns are 32-bit words. In a file that is too long for them the caret still
stands where the fault says, but what the fault says of its place is not to be relied on.
-/

import HLang.Check
import HLang.Proofs.Check.Rendered
import HLang.Proofs.Run.Described
import HLang.Proofs.Run.Failing
import HLang.Proofs.Token.Munch

namespace HLang

open Grammar Step

/-! ### Tips of one line -/

/-- The tip of a run that fails takes one line if every token does. -/
theorem oneLine_tip_of_validate {tokens : List Token} {file : String} {diagnosis : Diagnosis}
    (failed : (validate tokens file).outcome = .error diagnosis)
    (oneLine : ∀ token ∈ closedTokens tokens file, OneLine token.value) :
    ∀ tip, diagnosis.fault.tip? = some tip → OneLine tip := by
  obtain ⟨program, completed⟩ := exists_completed tokens file
  obtain ⟨-, last, fails, -⟩ := completed.session_of_error failed
  have describes := explains_of_validate_eq_error failed
  unfold Session.Explains at describes
  rw [seen_validate] at describes
  refine fun tip isTip => describes.oneLine_tip (worded_statement _ diagnosis last fails)
    (fun token member => ?_) isTip
  rcases List.mem_append.mp member with read | atMark
  · exact oneLine token (List.mem_of_mem_take read)
  · rw [List.mem_singleton.mp atMark]
    exact oneLine _ (List.mem_of_getElem? (getElem?_closedTokens_index tokens file))

namespace CleanSource

variable {clean : CleanSource} {file : String}

/-! ### Lines that are found -/

/-- If a line was kept, every row is given one that was. -/
theorem sourceLine_mem (kept : clean.lineNumbers ≠ []) (row : UInt32) :
    clean.sourceLine row ∈ clean.lineNumbers := by
  unfold sourceLine
  split
  · rename_i line found
    split at found
    · exact nomatch found
    · exact List.mem_of_getElem? found
  · rw [List.getLast?_eq_some_getLast kept, Option.getD_some]
    exact List.getLast_mem kept

theorem lineNumbers_eq_nil_iff {source : String} :
    (ofSource source).lineNumbers = [] ↔ cleanRows source.toList = [] := by
  rw [← List.length_eq_zero_iff, length_lineNumbers, List.length_eq_zero_iff]

/-- Every line that was kept has a text, of one line. -/
theorem exists_sourceLineText {source : String} {line : UInt32}
    (kept : line ∈ (ofSource source).lineNumbers) :
    ∃ text, (ofSource source).sourceLineText line = some text ∧ OneLine text := by
  have filled := mt lineNumbers_eq_nil_iff.mpr (List.ne_nil_of_mem kept)
  obtain ⟨index, found⟩ := Option.isSome_iff_exists.mp (List.isSome_idxOf?.mpr kept)
  obtain ⟨bound, -⟩ := List.idxOf?_eq_some_iff.mp found
  have rows := splitLines_text filled
  have isRow : index < (splitLines (ofSource source).text.toList).length := by
    rw [rows, ← length_lineNumbers]
    exact bound
  refine ⟨String.ofList (splitLines (ofSource source).text.toList)[index], ?_, ?_⟩
  · unfold sourceLineText
    rw [found, Option.bind_some, List.getElem?_eq_getElem isRow, Option.map_some]
  · unfold OneLine
    rw [String.toList_ofList]
    exact lineFeed_not_mem_splitLines _ _ (List.getElem_mem isRow)

/-! ### The tokens of a file -/

/-- The tokens are those of the lexemes, which take one line each, and one for the end of input. -/
theorem tokens_eq_concat (clean : CleanSource) (file : String) :
    ∃ lexical last, clean.tokens file = lexical ++ [last] ∧ last.lexeme = (.endOfInput, "EOF") ∧
      ∀ token ∈ lexical, OneLine token.value ∧ token.kind ≠ .endOfInput := by
  obtain ⟨lexical, ended, whole, isLexical, isEnded⟩ :=
    List.map_eq_append_iff.mp (map_lexeme_tokens clean file)
  obtain ⟨last, rfl, isLast⟩ := List.map_eq_singleton_iff.mp isEnded
  refine ⟨lexical, last, whole, isLast, fun token member => ?_⟩
  have among : token.lexeme ∈ lexemes clean.text.toList := isLexical ▸ List.mem_map_of_mem member
  obtain ⟨-, sameRow, -, hasKind⟩ := hasKind_of_mem_lexemes _ _ among
  exact ⟨sameRow, hasKind.ne_endOfInput⟩

theorem oneLine_of_mem_tokens : ∀ token ∈ clean.tokens file, OneLine token.value := by
  obtain ⟨lexical, last, whole, isLast, oneLine⟩ := tokens_eq_concat clean file
  rw [whole, List.forall_mem_append, List.forall_mem_singleton]
  refine ⟨fun token member => (oneLine token member).1, ?_⟩
  rw [show last.value = "EOF" from congrArg Prod.snd isLast]
  decide

/-- The tokens of a file are closed already. -/
theorem closedTokens_tokens (clean : CleanSource) (file other : String) :
    closedTokens (clean.tokens file) other = clean.tokens file := by
  obtain ⟨lexical, last, whole, isLast, -⟩ := tokens_eq_concat clean file
  have isEnd : last.kind = .endOfInput := congrArg Prod.fst isLast
  rw [closedTokens, TokenStream.toList_ofList, whole, List.getLast?_concat, Option.map_some, isEnd,
    if_pos rfl]

/-- A token is shown where its span says, and the end of input stands behind the text. -/
theorem shown_or_stop (mapped : clean.Mapped) {token : Token} (member : token ∈ clean.tokens file) :
    (token.kind ≠ .endOfInput → token.Shown clean) ∧
      (token.kind = .endOfInput → token.span.start = clean.stop file) := by
  obtain ⟨lexical, whole, shown⟩ := (laid_tokens clean file).shown mapped
  obtain ⟨others, last, same, -, notEnd⟩ := tokens_eq_concat clean file
  -- Both lists end with one token more, so in front of it they are the same.
  obtain ⟨rfl, -⟩ := List.append_inj' (whole.symm.trans same) rfl
  rw [whole] at member
  rcases List.mem_append.mp member with among | ended
  · exact ⟨fun _ => shown token among, fun isEnd => absurd isEnd (notEnd token among).2⟩
  · rw [List.mem_singleton.mp ended]
    exact ⟨fun other => absurd rfl other, fun _ => rfl⟩

end CleanSource

/-! ### Diagnostics of files -/

theorem Verdict.ofOutcome_eq_rejected_iff {outcome : Except Diagnosis (List Statement)}
    {diagnosis : Diagnosis} :
    ofOutcome outcome = .rejected diagnosis ↔ outcome = .error diagnosis := by
  cases outcome with
  | ok checked => exact iff_of_false (by simp [ofOutcome]) (by simp)
  | error other => rw [ofOutcome, Verdict.rejected.injEq, Except.error.injEq]

namespace Check

variable {source : String} {file : Option String} {diagnosis : Diagnosis}

theorem outcome_of_rejected (rejected : (ofSource source file).verdict = .rejected diagnosis) :
    (validate (ofSource source file).tokens (sourceName file)).outcome = .error diagnosis :=
  Verdict.ofOutcome_eq_rejected_iff.mp rejected

theorem closedTokens_ofSource (source : String) (file : Option String) :
    closedTokens (ofSource source file).tokens (sourceName file) = (ofSource source file).tokens :=
  CleanSource.closedTokens_tokens _ _ _

/-- Without a line that was kept, there is no statement that could fail. -/
theorem cleanRows_ne_nil (rejected : (ofSource source file).verdict = .rejected diagnosis) :
    CleanSource.cleanRows source.toList ≠ [] := by
  intro none
  have failed := outcome_of_rejected rejected
  have alone : (ofSource source file).tokens = [Token.endOfInput ⟨1, 1, sourceName file⟩] :=
    CleanSource.tokens_of_isEmpty (CleanSource.isEmpty_ofSource_iff.mpr none) (sourceName file)
  have ended : ¬ (Session.start (ofSource source file).tokens
      (sourceName file)).registerGrammar.hasTokens = true := by
    rw [alone]
    exact not_hasTokens_iff.mpr rfl
  unfold validate at failed
  rw [Session.statements, if_neg ended] at failed
  cases failed

/-- The fault of a file that is rejected stands on a line that was kept, of the file as it is
called. -/
theorem exists_failsFrom_of_rejected
    (rejected : (ofSource source file).verdict = .rejected diagnosis) :
    ∃ token ∈ (ofSource source file).tokens,
      FailsFrom (ofSource source file).tokens (sourceName file) token ∧
        token.span.start = diagnosis.position ∧ diagnosis.position.file = sourceName file ∧
        diagnosis.position.line ∈ (ofSource source file).clean.lineNumbers := by
  obtain ⟨token, failsFrom, start⟩ := exists_failsFrom (outcome_of_rejected rejected)
  have member := failsFrom.mem_closedTokens
  rw [closedTokens_ofSource] at member
  obtain ⟨before, -, -, place⟩ :=
    (laid_tokens (ofSource source file).clean (sourceName file)).start_behind token member
  have kept := mt CleanSource.lineNumbers_eq_nil_iff.mp (cleanRows_ne_nil rejected)
  refine ⟨token, member, failsFrom, start, ?_, ?_⟩
  · rw [← start, place]
    rfl
  · rw [← start, place]
    exact CleanSource.sourceLine_mem kept _

/-- A file that is rejected has a diagnostic exactly if the column of the fault is within the
greatest width. The diagnostic has five lines, and the fourth of them shows the text of the failing
line behind its number. The bars stand in one column, and the caret stands in the column of the
fault, where the statement that failed begins. As long as positions can count the lines and columns
of the file, that is under the first character of that statement, or behind the last one of the line
if the statement is missing. -/
theorem render_points (named : OneLine (sourceName file))
    (rejected : (ofSource source file).verdict = .rejected diagnosis) :
    let check := ofSource source file
    ∃ text token,
      check.clean.sourceLineText diagnosis.position.line = some text ∧
      FailsFrom check.tokens (sourceName file) token ∧ token.span.start = diagnosis.position ∧
      ((diagnosis.render? check.clean).isSome = true ↔
        diagnosis.position.column.toNat ≤ Diagnosis.maxWidth) ∧
      ∀ rendered, diagnosis.render? check.clean = some rendered → ∃ above excerpt below,
        splitLines rendered.toList =
          [diagnosis.heading.toList, ("-> " ++ sourceName file).toList, above, excerpt, below,
            []] ∧
        Diagnosis.Drawn (decimal diagnosis.position.line.toNat) text diagnosis.bar diagnosis.caret
          above excerpt below ∧
        (source.length < UInt32.size - 1 →
          (token.kind ≠ .endOfInput →
            token.value ≠ "" ∧ token.value.toList <+: excerpt.drop diagnosis.caret) ∧
          (token.kind = .endOfInput → excerpt.length = diagnosis.caret)) := by
  intro check
  obtain ⟨token, member, failsFrom, start, isFile, kept⟩ := exists_failsFrom_of_rejected rejected
  obtain ⟨text, found, oneLine⟩ := CleanSource.exists_sourceLineText kept
  have tips : ∀ tip, diagnosis.fault.tip? = some tip → OneLine tip := by
    refine oneLine_tip_of_validate (outcome_of_rejected rejected) ?_
    rw [closedTokens_ofSource]
    exact CleanSource.oneLine_of_mem_tokens
  refine ⟨text, token, found, failsFrom, start, Diagnosis.isSome_render?_iff,
    fun rendered laidOut => ?_⟩
  obtain ⟨below, pointer, lines⟩ :=
    Diagnosis.splitLines_of_render? tips (isFile ▸ named) found oneLine laidOut
  rw [isFile] at lines
  refine ⟨_, _, _, lines, Diagnosis.drawn found pointer, fun characters => ?_⟩
  have mapped := CleanSource.mapped_ofSource characters (cleanRows_ne_nil rejected)
  obtain ⟨shown, stop⟩ := CleanSource.shown_or_stop mapped member
  refine ⟨fun notEnd => ?_, fun isEnd => ?_⟩
  · obtain ⟨filled, -, left, right, covered, column, -⟩ := shown notEnd
    rw [start] at covered column
    obtain rfl := Option.some.inj (covered.symm.trans found)
    obtain ⟨front, shape, width⟩ := Diagnosis.excerpt_at_caret found
      (String.toList_ofList.trans (List.append_assoc left _ right)) column
    refine ⟨filled, ?_⟩
    rw [shape, List.drop_left' width]
    exact List.prefix_append _ _
  · obtain ⟨-, line, isLine, column⟩ := CleanSource.stop_of_mapped mapped
    rw [← stop isEnd, start] at isLine column
    obtain rfl := Option.some.inj (isLine.symm.trans found)
    obtain ⟨front, shape, width⟩ := Diagnosis.excerpt_at_caret found
      (List.append_nil line.toList).symm (String.length_toList ▸ column)
    rw [shape, List.append_nil, width]

/-- A file of which two lines are dropped, and in which the body of a conditional fails: the caret
stands under the body, and not under the conditional. -/
theorem render_points_guarded :
    OneLine (sourceName none) ∧
    (ofSource "\n x : integer ;\n\t\nIf ( x < 1 ) y := 2;" none).verdict =
      .rejected ⟨.undeclaredIdentifier "y", ⟨4, 8, "shell"⟩⟩ ∧
    "\n x : integer ;\n\t\nIf ( x < 1 ) y := 2;".length < UInt32.size - 1 ∧
    ∃ rendered token above below,
      Diagnosis.render? ⟨.undeclaredIdentifier "y", ⟨4, 8, "shell"⟩⟩
        (CleanSource.ofSource "\n x : integer ;\n\t\nIf ( x < 1 ) y := 2;") = some rendered ∧
      splitLines rendered.toList =
        ["Error: UndeclaredIdentifier (Identifier `y` not declared)".toList, "-> shell".toList,
          above, "4 | If(x<1)y:=2;".toList, below, []] ∧
      below = "  | -------^".toList ∧
      FailsFrom (ofSource "\n x : integer ;\n\t\nIf ( x < 1 ) y := 2;" none).tokens "shell" token ∧
      token.value.toList <+: "y:=2;".toList := by
  have named : OneLine (sourceName none) := by decide
  have rejected : (ofSource "\n x : integer ;\n\t\nIf ( x < 1 ) y := 2;" none).verdict =
      .rejected ⟨.undeclaredIdentifier "y", ⟨4, 8, "shell"⟩⟩ := by decide +kernel
  have characters : "\n x : integer ;\n\t\nIf ( x < 1 ) y := 2;".length < UInt32.size - 1 := by
    decide
  obtain ⟨text, token, found, failsFrom, -, within, lines⟩ := render_points named rejected
  obtain ⟨rendered, laidOut⟩ := Option.isSome_iff_exists.mp (within.mpr (by decide))
  obtain ⟨above, excerpt, below, rows, drawn, points⟩ := lines rendered laidOut
  obtain rfl : text = "If(x<1)y:=2;" := Option.some.inj (found.symm.trans (by decide))
  obtain rfl : excerpt = "4 | If(x<1)y:=2;".toList := drawn.excerpt_eq.trans (by decide)
  obtain ⟨shown, missing⟩ := points characters
  have notEnd : token.kind ≠ .endOfInput := fun isEnd => absurd (missing isEnd) (by decide)
  exact ⟨named, rejected, characters, rendered, token, above, below, laidOut, rows,
    drawn.below_eq.trans (by decide), failsFrom, (shown notEnd).2⟩

end Check

end HLang
