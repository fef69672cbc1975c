/-
This file reads a token report back. Its format escapes nothing: an entry is a lexeme, a tab, the
name of a category and a line feed. That is enough, because the kinds that are reported have one
spelling each, none of which holds a tab or a line feed. So the text of a report gives back its
entries, and the lexemes of the entries, written one below the other, are scanned as the tokens they
were taken from.

The report is also a summary of a program that is accepted: every statement of it has one semicolon,
and only conditionals have the word `If`.
-/

import HLang.Check
import HLang.Proofs.Check.Rendered
import HLang.Proofs.Run.Covered
import HLang.Proofs.Token.Munch

namespace HLang

open Grammar

/-! ### Reading the text of a report -/

/-- Reads a line of a report: a lexeme and the name of a category with the only tab between
them. -/
def ReportEntry.ofLine? (line : List Char) : Option ReportEntry :=
  match line.splitOn '\t' with
  | [lexeme, name] =>
    (TokenCategory.ofName? (String.ofList name)).map (⟨String.ofList lexeme, ·⟩)
  | _ => none

/-- Reads the text of a report, in which a line feed closes each line. -/
def readReport (text : List Char) : Option (List ReportEntry) :=
  if (splitLines text).getLast? = some [] then
    (splitLines text).dropLast.mapM ReportEntry.ofLine?
  else none

theorem TokenCategory.ofName?_name (category : TokenCategory) :
    ofName? category.name = some category := by
  cases category <;> decide

theorem TokenCategory.plain_name (category : TokenCategory) :
    '\t' ∉ category.name.toList ∧ '\n' ∉ category.name.toList := by
  cases category <;> decide

/-- The lexeme of the entry holds neither of the two characters that lay a report out. -/
def ReportEntry.Plain (entry : ReportEntry) : Prop :=
  '\t' ∉ entry.lexeme.toList ∧ '\n' ∉ entry.lexeme.toList

theorem ReportEntry.ofLine?_of_plain {entry : ReportEntry} (plain : entry.Plain) :
    ofLine? (entry.lexeme ++ "\t" ++ entry.category.name).toList = some entry := by
  have parts : (entry.lexeme ++ "\t" ++ entry.category.name).toList.splitOn '\t' =
      [entry.lexeme.toList, entry.category.name.toList] := by
    rw [String.toList_append, String.toList_append, List.append_assoc]
    show (entry.lexeme.toList ++ '\t' :: entry.category.name.toList).splitOn '\t' = _
    rw [List.splitOn_append_cons_self, List.splitOn_eq_singleton plain.1,
      List.splitOn_eq_singleton entry.category.plain_name.1]
    rfl
  unfold ofLine?
  rw [parts]
  simp only [String.ofList_toList, TokenCategory.ofName?_name, Option.map_some]

/-- A report is read back from its text, if its lexemes are plain. -/
theorem readReport_renderReport {entries : List ReportEntry}
    (plain : ∀ entry ∈ entries, entry.Plain) :
    readReport (renderReport entries).toList = some entries := by
  have rows : splitLines (renderReport entries).toList =
      entries.map (fun entry => (entry.lexeme ++ "\t" ++ entry.category.name).toList) ++ [[]] := by
    have oneLine : ∀ line ∈ entries.map fun entry => entry.lexeme ++ "\t" ++ entry.category.name,
        OneLine line := by
      intro line member
      obtain ⟨entry, isEntry, rfl⟩ := List.mem_map.mp member
      exact oneLine_append_iff.mpr ⟨oneLine_append_iff.mpr ⟨(plain entry isEntry).2, by decide⟩,
        entry.category.plain_name.2⟩
    have closed := Diagnosis.splitLines_closed oneLine
    rwa [List.map_map, List.map_map] at closed
  unfold readReport
  rw [rows, List.getLast?_concat, if_pos rfl, List.dropLast_concat]
  clear rows
  induction entries with
  | nil => rfl
  | cons entry more inductionHypothesis =>
    obtain ⟨here, later⟩ := List.forall_mem_cons.mp plain
    rw [List.map_cons, List.mapM_cons, ReportEntry.ofLine?_of_plain here,
      inductionHypothesis later]
    rfl

/-! ### The tokens of a report -/

/-- The kinds of token that are not reported. -/
def unreportedKinds : List TokenKind :=
  [.identifier, .integerLiteral, .doubleLiteral, .stringLiteral, .unknown, .endOfInput]

/-- The tokens of a program that are reported. -/
def reportedTokens (tokens : List Token) : List Token :=
  tokens.filter fun token => token.kind ∉ unreportedKinds

/-- The entry of a token that is reported. -/
def Token.entry (token : Token) : ReportEntry :=
  ⟨token.value, token.category⟩

theorem reportEntries_eq_map (tokens : List Token) :
    reportEntries tokens = (reportedTokens tokens).map Token.entry := by
  have entry (token : Token) : ReportEntry.ofToken? token =
      if token.kind ∉ unreportedKinds then some token.entry else none := by
    obtain ⟨kind, value, span⟩ := token
    cases kind <;> rfl
  unfold reportEntries reportedTokens
  induction tokens with
  | nil => rfl
  | cons token more inductionHypothesis =>
    rw [List.filterMap_cons, entry, List.filter_cons, inductionHypothesis]
    by_cases reported : token.kind ∉ unreportedKinds
    · rw [if_pos reported, if_pos (decide_eq_true reported), List.map_cons]
    · rw [if_neg reported, if_neg (mt of_decide_eq_true reported)]

theorem spelling_of_hasKind {kind : TokenKind} {value : List Char} (hasKind : HasKind value kind)
    (reported : kind ∉ unreportedKinds) : kind.spelling? = some (String.ofList value) := by
  cases hasKind with
  | spelled value kind spelled =>
    cases spelled with
    | fixed kind spelling spelled => rwa [String.ofList_toList]
    | identifier => exact absurd (by decide) reported
    | integer => exact absurd (by decide) reported
    | double => exact absurd (by decide) reported
    | string => exact absurd (by decide) reported
  | string => exact absurd (by decide) reported
  | malformed => exact absurd (by decide) reported
  | single => exact absurd (by decide) reported

theorem plain_of_spelling {kind : TokenKind} {spelling : String}
    (spelled : kind.spelling? = some spelling) :
    '\t' ∉ spelling.toList ∧ '\n' ∉ spelling.toList ∧ '"' ∉ spelling.toList := by
  cases kind <;> cases spelled <;> decide

/-- A token that is reported has the one spelling of its kind. -/
theorem spelling_of_mem_reportedTokens {clean : CleanSource} {file : String} {token : Token}
    (member : token ∈ reportedTokens (clean.tokens file)) :
    token.kind.spelling? = some token.value := by
  obtain ⟨among, decided⟩ := List.mem_filter.mp member
  have reported := of_decide_eq_true decided
  have isLexeme : token.lexeme ∈ lexemes clean.text.toList ++ [(.endOfInput, "EOF")] :=
    map_lexeme_tokens clean file ▸ List.mem_map_of_mem among
  rcases List.mem_append.mp isLexeme with scanned | ended
  · have hasKind := (hasKind_of_mem_lexemes _ _ scanned).2.2.2
    exact (spelling_of_hasKind hasKind reported).trans (congrArg some String.ofList_toList)
  · have kind : token.kind = .endOfInput := congrArg Prod.fst (List.mem_singleton.mp ended)
    rw [kind] at reported
    exact absurd (by decide) reported

/-! ### Spellings one below the other -/

variable {tokens : List Token}

/-- A character of rows that are put together, but for the line feeds, stands in one of them. -/
theorem exists_row_of_mem_joinLines {rows : List (List Char)} {c : Char} (other : c ≠ '\n')
    (member : c ∈ joinLines rows) : ∃ row ∈ rows, c ∈ row := by
  induction rows with
  | nil => exact absurd member List.not_mem_nil
  | cons row more inductionHypothesis =>
    cases more with
    | nil =>
      rw [joinLines_singleton] at member
      exact ⟨row, List.mem_cons_self, member⟩
    | cons next more =>
      rw [joinLines_cons_cons] at member
      rcases List.mem_append.mp member with here | later
      · exact ⟨row, List.mem_cons_self, here⟩
      · obtain ⟨found, isRow, among⟩ := inductionHypothesis (List.mem_of_ne_of_mem other later)
        exact ⟨found, List.mem_cons_of_mem row isRow, among⟩

/-- Tokens with the spellings of their kinds are scanned again from their values, one below the
other. -/
theorem map_lexeme_tokens_column
    (spelled : ∀ token ∈ tokens, token.kind.spelling? = some token.value) (file : String) :
    ((CleanSource.ofSource (String.ofList
        (joinLines (tokens.map fun token => token.value.toList)))).tokens file).map Token.lexeme =
      tokens.map Token.lexeme ++ [(.endOfInput, "EOF")] := by
  have unquoted : '"' ∉ joinLines (tokens.map fun token => token.value.toList) := by
    intro member
    obtain ⟨row, isRow, among⟩ := exists_row_of_mem_joinLines (by decide) member
    obtain ⟨token, isToken, rfl⟩ := List.mem_map.mp isRow
    exact (plain_of_spelling (spelled token isToken)).2.2 among
  have keeps : KeepsQuotes false
      (String.ofList (joinLines (tokens.map fun token => token.value.toList))).toList := by
    have whole := (keepsQuotes_unquoted_append_iff unquoted []).mpr trivial
    rwa [List.append_nil, ← String.toList_ofList (l := joinLines _)] at whole
  rw [map_lexeme_tokens, lexemes_ofSource keeps, String.toList_ofList, lexemes_joinLines]
  refine congrArg (· ++ _) ?_
  rw [List.flatMap_map]
  clear unquoted keeps
  induction tokens with
  | nil => rfl
  | cons token more inductionHypothesis =>
    obtain ⟨here, later⟩ := List.forall_mem_cons.mp spelled
    have isSpelled : Spelled token.kind token.value.toList := .fixed _ _ here
    have apart : Apart (token.value.toList.getLast isSpelled.ne_nil) [] :=
      fun next member => absurd member (Option.not_mem_none next)
    have alone := isSpelled.lexemes_append apart
    rw [List.append_nil, lexemes_nil, String.ofList_toList] at alone
    rw [List.flatMap_cons, alone, inductionHypothesis later]
    rfl

/-! ### Counting entries -/

/-- The kind of a token that is reported is the only one with its spelling. -/
theorem value_eq_iff_of_spelling {token : Token} {kind : TokenKind} {spelling : String}
    (isSpelling : kind.spelling? = some spelling)
    (spelled : token.kind.spelling? = some token.value) :
    token.value = spelling ↔ token.kind = kind := by
  constructor
  · rintro rfl
    exact (HasKind.spelled _ _ (.fixed _ _ spelled)).unique
      (HasKind.spelled _ _ (.fixed _ _ isSpelling))
  · rintro rfl
    exact Option.some.inj (spelled.symm.trans isSpelling)

theorem category_eq_semicolon_iff (kind : TokenKind) :
    kind.category = .semicolon ↔ kind = .semicolon := by
  cases kind <;> decide

/-- The end of input stands behind all other tokens of a file. -/
theorem count_kinds_beforeEnd {kind : TokenKind} (other : kind ≠ .endOfInput)
    (clean : CleanSource) (file : String) :
    (kinds (clean.tokens file)).count kind =
      (kinds (beforeEnd (clean.tokens file))).count kind := by
  obtain ⟨lexical, last, whole, isLast, -, each⟩ := clean.tokens_longest file
  have isEnd : last.kind = .endOfInput := congrArg Prod.fst isLast
  have noEnd : NoEnd lexical := fun token member => (each token member).2.2.2.1
  have ended : beforeEnd [last] = [] := by
    unfold beforeEnd
    rw [List.takeWhile_cons_of_neg (by simp [isEnd])]
  rw [whole, beforeEnd_append noEnd, ended, List.append_nil, kinds, List.map_append,
    List.count_append]
  simp [isEnd, other.symm]

/-- Entries that tell the tokens of one kind apart are counted by these tokens. -/
theorem countP_map_entry (kind : TokenKind) (reported : kind ∉ unreportedKinds)
    {tells : ReportEntry → Bool} (clean : CleanSource) (file : String)
    (same : ∀ token ∈ reportedTokens (clean.tokens file),
      tells token.entry = true ↔ token.kind = kind) :
    ((reportedTokens (clean.tokens file)).map Token.entry).countP tells =
      (kinds (beforeEnd (clean.tokens file))).count kind := by
  have ofKind : ∀ token ∈ reportedTokens (clean.tokens file),
      (tells ∘ Token.entry) token = true ↔ (token.kind == kind) = true :=
    fun token member => (same token member).trans beq_iff_eq.symm
  have notEnd : kind ≠ .endOfInput := by
    rintro rfl
    exact reported (by decide)
  rw [← count_kinds_beforeEnd notEnd, List.countP_map, List.countP_congr ofKind, reportedTokens,
    List.countP_filter, kinds, List.count, List.countP_map]
  refine List.countP_congr fun token _ => ?_
  simp only [Bool.and_eq_true, beq_iff_eq, decide_eq_true_eq, Function.comp_apply,
    and_iff_left_iff_imp]
  rintro rfl
  exact reported

/-! ### Faithful reports -/

/-- The text of the report on a file is read back as the entries of its tokens that have one
spelling, in their order, whether or not the file is accepted. The lexemes, one below the other,
are scanned as these tokens. If the file is accepted, the semicolons count its statements and the
words `If` its conditionals. -/
theorem Check.report_faithful (source : String) (file : Option String) (column : String) :
    ∃ entries, readReport (renderReport (ofSource source file).entries).toList = some entries ∧
      entries = (reportedTokens (ofSource source file).tokens).map Token.entry ∧
      ((CleanSource.ofSource (String.ofList
          (joinLines (entries.map fun entry => entry.lexeme.toList)))).tokens column).map
          Token.lexeme =
        (reportedTokens (ofSource source file).tokens).map Token.lexeme ++
          [(.endOfInput, "EOF")] ∧
      ((ofSource source file).verdict = .accepted → ∃ statements,
        (validate (ofSource source file).tokens (sourceName file)).outcome = .ok statements ∧
        entries.countP (·.category = .semicolon) = statements.length ∧
        entries.countP (·.lexeme = "If") = statements.countP (·.kind = .conditional)) := by
  have spelled : ∀ token ∈ reportedTokens (ofSource source file).tokens,
      token.kind.spelling? = some token.value := fun _ => spelling_of_mem_reportedTokens
  have whole : (ofSource source file).entries = _ := reportEntries_eq_map _
  refine ⟨_, ?_, rfl, ?_, fun accepted => ?_⟩
  · rw [whole]
    refine readReport_renderReport fun entry member => ?_
    obtain ⟨token, isToken, rfl⟩ := List.mem_map.mp member
    have plain := plain_of_spelling (spelled token isToken)
    exact ⟨plain.1, plain.2.1⟩
  · rw [List.map_map]
    exact map_lexeme_tokens_column spelled column
  · have passed : Verdict.ofOutcome (validate (ofSource source file).tokens
        (sourceName file)).outcome = .accepted := accepted
    cases outcome : (validate (ofSource source file).tokens (sourceName file)).outcome with
    | error diagnosis =>
      rw [outcome] at passed
      exact nomatch passed
    | ok statements =>
      obtain ⟨program, tokens, -, rfl⟩ := (validate_eq_ok_iff _ _ _).mp outcome
      refine ⟨_, rfl, ?_, ?_⟩
      · refine (countP_map_entry .semicolon (by decide) _ _ fun token _ => ?_).trans ?_
        · rw [decide_eq_true_eq]
          exact category_eq_semicolon_iff token.kind
        · rw [List.length_map, ← count_semicolon_programTokens program, tokens]
          rfl
      · refine (countP_map_entry .ifWord (by decide) _ _ fun token member => ?_).trans ?_
        · rw [decide_eq_true_eq]
          exact value_eq_iff_of_spelling (rfl : TokenKind.ifWord.spelling? = _)
            (spelled token member)
        · rw [← count_ifWord_programTokens program, tokens]
          rfl

/-- A declaration and a conditional on three lines, and a string that spells a reserved word. -/
def guardedSource : String :=
  "x : integer;\n If (x<1)\n output<<\"If\";"

theorem Check.report_faithful_guardedSource :
    (ofSource guardedSource none).verdict = .accepted ∧
      ∃ entries, readReport (renderReport (ofSource guardedSource none).entries).toList =
          some entries ∧
        entries.map ReportEntry.lexeme =
          [":", "integer", ";", "If", "(", "<", ")", "output", "<<", ";"] ∧
        entries.countP (·.category = .semicolon) = 2 ∧ entries.countP (·.lexeme = "If") = 1 := by
  have accepted : (ofSource guardedSource none).verdict = .accepted := by decide +kernel
  obtain ⟨entries, read, rfl, -, counts⟩ := report_faithful guardedSource none "shell"
  obtain ⟨statements, outcome, semicolons, words⟩ := counts accepted
  have checked :
      (validate (ofSource guardedSource none).tokens (sourceName none)).outcome.toOption.map
        (fun statements => (statements.length, statements.countP (·.kind = .conditional))) =
          some (2, 1) := by decide +kernel
  rw [outcome] at checked
  obtain ⟨length, conditionals⟩ := Prod.mk.inj (Option.some.inj checked)
  exact ⟨accepted, _, read, by decide +kernel, semicolons.trans length, words.trans conditionals⟩

end HLang
