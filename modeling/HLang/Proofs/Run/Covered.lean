/-
This file says which tokens the checked statements of an accepted program are made of. The counts of
their tokens add up to the index of the first end of input, where the run has ended, and each
statement covers the stretch of tokens that its count gives it behind those before: it begins with
the first of them and ends with the last, which is the only semicolon among them. The body of a
conditional covers the last of its tokens in the same way, behind a header of six tokens, or of
seven if its operand is a number with a sign.

So no token is lost between two statements, and none is counted for both.
-/

import HLang.Proofs.Grammar.Stem
import HLang.Proofs.Run.Reported
import HLang.Proofs.Run.Truncated

namespace HLang

open Grammar

/-! ### Clauses and the tokens they are made of -/

/-- The clause covers the tokens: it counts them, and reaches from the first one to the last. -/
structure Clause.Covers (clause : Clause) (tokens : List Token) : Prop where
  count : tokens.length = clause.tokens
  start : tokens.head?.map (fun token => token.span.start) = some clause.span.start
  stop : tokens.getLast?.map (fun token => token.span.stop) = some clause.span.stop

namespace Grammar

/-- The number of tokens from the word `If` to the closing parenthesis. -/
def Header.width (header : Header) : Nat :=
  match header.condition.operand with
  | .named _ | .number _ => 6
  | .negative _ _ => 7

end Grammar

/-- The clause is an assignment or an output, and covers the tokens behind a header. -/
def Clause.CoversBehindHeader (clause : Clause) (tokens : List Token) : Prop :=
  (clause.kind = .assignment ∨ clause.kind = .output) ∧
    ∃ header : Header, ∃ inner, tokens = header.tokens ++ inner ∧
      header.tokens.length = header.width ∧ clause.Covers inner

/-- The statement covers the tokens. They end with their only semicolon, and a conditional, and no
other statement, has a body, which covers the last of them. -/
structure Statement.Covers (statement : Statement) (tokens : List Token) : Prop where
  clause : statement.toClause.Covers tokens
  closed : ∃ front last, tokens = front ++ [last] ∧ last.kind = .semicolon ∧
    .semicolon ∉ kinds front
  guards : statement.body.isSome ↔ statement.kind = .conditional
  body : ∀ body, statement.body = some body → body.CoversBehindHeader tokens

/-! ### Statement trees cover their tokens -/

namespace Grammar

/-- A clause made of a first token, a last one and those between covers them. -/
theorem clauseOf_covers {kind : StatementKind} {first last : Token} {tokens : List Token}
    (front : tokens.head? = some first) (back : tokens.getLast? = some last) :
    (clauseOf kind first last tokens).Covers tokens :=
  ⟨rfl, congrArg (Option.map _) front, congrArg (Option.map _) back⟩

theorem Guarded.head?_tokens (guarded : Guarded) : guarded.tokens.head? = some guarded.head := by
  cases guarded <;> rfl

theorem Guarded.getLast?_tokens (guarded : Guarded) :
    guarded.tokens.getLast? = some guarded.last := by
  cases guarded <;> exact List.getLast?_concat

theorem Guarded.clause_covers (guarded : Guarded) : guarded.clause.Covers guarded.tokens :=
  clauseOf_covers guarded.head?_tokens guarded.getLast?_tokens

theorem Conditional.clause_covers (conditional : Conditional) :
    conditional.clause.Covers conditional.tokens := by
  refine clauseOf_covers rfl ?_
  rw [conditional.tokens_eq_header_append, List.getLast?_append, conditional.body.getLast?_tokens,
    Option.some_or]

theorem Header.length_tokens_eq_width (header : Header) : header.tokens.length = header.width := by
  rw [header.length_tokens, width]
  cases header.condition.operand <;> rfl

theorem Conditional.body_covers (conditional : Conditional) :
    conditional.body.clause.CoversBehindHeader conditional.tokens := by
  refine ⟨?_, conditional.opening, conditional.body.tokens, conditional.tokens_eq_header_append,
    conditional.opening.length_tokens_eq_width, conditional.body.clause_covers⟩
  cases conditional.body with
  | assignment tree => exact Or.inl rfl
  | output tree => exact Or.inr rfl

namespace Form

theorem clause_covers (form : Form) : form.statement.toClause.Covers form.tokens := by
  cases form with
  | declaration tree => exact clauseOf_covers rfl rfl
  | simple tree => exact tree.clause_covers
  | conditional tree => exact tree.clause_covers

theorem isSome_body_iff (form : Form) :
    form.statement.body.isSome ↔ form.statement.kind = .conditional := by
  cases form with
  | declaration tree => exact iff_of_false Bool.false_ne_true fun other => nomatch other
  | simple tree =>
    cases tree <;> exact iff_of_false Bool.false_ne_true fun other => nomatch other
  | conditional tree => exact iff_of_true rfl rfl

/-- What a statement tree stands for covers its tokens. -/
theorem covers (form : Form) : form.statement.Covers form.tokens := by
  refine ⟨form.clause_covers, ⟨form.stem, form.semicolon.token, form.tokens_eq_stem_append,
    form.semicolon.kind_eq, form.semicolon_not_mem_stem⟩, form.isSome_body_iff,
    fun body guards => ?_⟩
  cases form with
  | declaration tree => exact nomatch guards
  | simple tree => exact nomatch guards
  | conditional tree =>
    obtain rfl := Option.some.inj guards
    exact tree.body_covers

end Form

/-! ### Programs -/

theorem tokenCount_map_statement (program : List Form) :
    tokenCount (program.map Form.statement) = (programTokens program).length := by
  induction program with
  | nil => rfl
  | cons form program inductionHypothesis =>
    rw [List.map_cons, tokenCount, inductionHypothesis, form.tokens_statement, programTokens_cons,
      List.length_append]

/-- A program has as many semicolons as statements. -/
theorem count_semicolon_programTokens (program : List Form) :
    (kinds (programTokens program)).count .semicolon = program.length := by
  induction program with
  | nil => rfl
  | cons form program inductionHypothesis =>
    have own : (kinds form.tokens).count .semicolon = 1 := by
      rw [form.tokens_eq_stem_append, kinds, List.map_append, List.count_append,
        List.count_eq_zero.mpr form.semicolon_not_mem_stem]
      simp [form.semicolon.kind_eq]
    rw [programTokens_cons, kinds, List.map_append, List.count_append, own, inductionHypothesis,
      List.length_cons, Nat.add_comm]

theorem Form.count_ifWord (form : Form) :
    (kinds form.tokens).count .ifWord = if form.statement.kind = .conditional then 1 else 0 := by
  have simple (guarded : Guarded) : (kinds guarded.tokens).count .ifWord = 0 := by
    refine List.count_eq_zero.mpr fun member => ?_
    rw [guarded.tokens_eq_stem_append, kinds, List.map_append] at member
    rcases List.mem_append.mp member with stem | last
    · exact absurd (guarded.kinds_stem_subset stem) (by decide)
    · simp [guarded.semicolon.kind_eq] at last
  cases form with
  | declaration tree =>
    have none : (kinds tree.tokens).count .ifWord = 0 := by
      rcases tree.word.kind_eq_or with kind | kind <;>
        simp [Declaration.tokens, tree.name.kind_eq, tree.colon.kind_eq, kind,
          tree.semicolon.kind_eq]
    exact none
  | simple tree =>
    have other : (Form.simple tree).statement.kind ≠ .conditional :=
      mt (isSome_body_iff (.simple tree)).mpr Bool.false_ne_true
    rw [if_neg other]
    exact simple tree
  | conditional tree =>
    obtain ⟨behind, header, within⟩ := tree.kinds_header_subset
    have noMore : .ifWord ∉ behind := fun member => absurd (within member) (by decide)
    rw [tokens, tree.tokens_eq_header_append, kinds, List.map_append, ← kinds, header,
      List.count_append, List.count_cons_self, List.count_eq_zero.mpr noMore, simple]
    rfl

/-- A program has as many words `If` as conditionals. -/
theorem count_ifWord_programTokens (program : List Form) :
    (kinds (programTokens program)).count .ifWord =
      (program.map Form.statement).countP (·.kind = .conditional) := by
  induction program with
  | nil => rfl
  | cons form program inductionHypothesis =>
    rw [programTokens_cons, kinds, List.map_append, List.count_append, form.count_ifWord,
      inductionHypothesis, List.map_cons, List.countP_cons, Nat.add_comm]
    simp only [decide_eq_true_eq]

/-- A statement of a program covers the tokens behind those of the statements before it. -/
theorem covers_take_drop {before after : List Form} {form : Form} {read : List Token}
    (front : programTokens (before ++ form :: after) <+: read) :
    form.statement.Covers ((read.drop (tokenCount (before.map Form.statement))).take
      form.statement.tokens) := by
  obtain ⟨rest, rfl⟩ := front
  rw [programTokens_append, programTokens_cons, List.append_assoc, List.append_assoc,
    tokenCount_map_statement, List.drop_left, form.tokens_statement, List.take_left]
  exact form.covers

end Grammar

/-! ### Accepted programs -/

/-- The statements of an accepted program cover the tokens before the first end of input, one behind
the other, and the run has ended there. -/
theorem covers_of_validate_eq_ok {tokens : List Token} {file : String} {checked : List Statement}
    (accepted : (validate tokens file).outcome = .ok checked) :
    let read := closedTokens tokens file
    (validate tokens file).session.stream.index = tokenCount checked ∧
      IsLeast {index | (read[index]?).map Token.kind = some .endOfInput} (tokenCount checked) ∧
      (∀ (place : Nat) (inside : place < checked.length),
        checked[place].Covers ((read.drop (tokenCount (checked.take place))).take
          checked[place].tokens)) ∧
      (kinds (read.take (tokenCount checked))).count .semicolon = checked.length := by
  intro read
  obtain ⟨program, completed⟩ := exists_completed tokens file
  obtain ⟨rfl, atEnd, session⟩ := completed.session_of_ok accepted
  have front : programTokens program <+: read := completed.isPrefix
  have index : (validate tokens file).session.stream.index = (programTokens program).length := by
    rw [session]
    exact completed.index_behind
  have current : (validate tokens file).session.current.kind = .endOfInput := by
    rw [session]
    exact atEnd
  have ended := getElem?_closedTokens_index tokens file
  rw [index] at ended
  rw [tokenCount_map_statement]
  refine ⟨index, ⟨?_, fun other isEnd => ?_⟩, fun place inside => ?_, ?_⟩
  · show (read[_]?).map Token.kind = _
    rw [ended, Option.map_some, current]
  · by_contra before
    have earlier : other < (programTokens program).length := Nat.lt_of_not_le before
    obtain ⟨token, found, kind⟩ := Option.map_eq_some_iff.mp isEnd
    obtain ⟨rest, whole⟩ := front
    rw [← whole, List.getElem?_append_left earlier] at found
    exact noEnd_programTokens program token (List.mem_of_getElem? found) kind
  · have within : place < program.length := by rwa [List.length_map] at inside
    have split : program = program.take place ++ program[place] :: program.drop (place + 1) := by
      rw [← List.drop_eq_getElem_cons within, List.take_append_drop]
    rw [List.getElem_map, ← List.map_take]
    exact covers_take_drop (split ▸ front)
  · rw [← List.prefix_iff_eq_take.mp front, count_semicolon_programTokens, List.length_map]

/-- What checking `guardedOutput` yields. -/
def guardedOutputChecked : List Statement :=
  [⟨⟨.declaration, ⟨⟨1, 1, "shell"⟩, ⟨1, 11, "shell"⟩⟩, 4⟩, none⟩,
    ⟨⟨.conditional, ⟨⟨2, 1, "shell"⟩, ⟨3, 13, "shell"⟩⟩, 10⟩,
      some ⟨.output, ⟨⟨3, 1, "shell"⟩, ⟨3, 13, "shell"⟩⟩, 4⟩⟩]

theorem validate_guardedOutput :
    (validate guardedOutput "shell").outcome = .ok guardedOutputChecked := by
  decide +kernel

/-- The conditional behind the declaration of `x` covers the last ten tokens. -/
theorem covers_of_validate_guardedOutput :
    (validate guardedOutput "shell").outcome = .ok guardedOutputChecked ∧
      (validate guardedOutput "shell").session.stream.index = 14 ∧
      guardedOutputChecked[0].Covers (guardedOutput.take 4) ∧
      guardedOutputChecked[1].Covers (guardedOutput.drop 4) := by
  obtain ⟨index, -, covers, -⟩ := covers_of_validate_eq_ok validate_guardedOutput
  exact ⟨validate_guardedOutput, index, covers 0 (by decide), covers 1 (by decide)⟩

end HLang
