/-
This file says at which place a run that fails reports its diagnosis: at the first token behind
the longest front of complete statements that is accepted on its own, where the failing statement
begins. If the failing statement is a conditional and its whole header was read, the body counts as
the failing statement, and the diagnosis is reported at the first token behind the header. The
session keeps the same place as the start of the statement that was being checked.
-/

import HLang.Proofs.Run.Completed

namespace HLang

/-! ### One header at most stands at the front -/

namespace Grammar

theorem Operand.length_tokens (operand : Operand) :
    operand.tokens.length =
      if operand.tokens.head?.map Token.kind = some .dash then 2 else 1 := by
  cases operand with
  | named name => simp [Operand.tokens, name.kind_eq]
  | number numeral =>
    rcases numeral.kind_eq_or with kind | kind <;> simp [Operand.tokens, kind]
  | negative sign numeral => simp [Operand.tokens, sign.kind_eq]

/-- Operands at the front of the same tokens are equally long, because their first tokens are the
same. -/
theorem Operand.length_eq_of_isPrefix {first second : Operand} {whole : List Token}
    (firstFront : first.tokens <+: whole) (secondFront : second.tokens <+: whole) :
    first.tokens.length = second.tokens.length := by
  have head (operand : Operand) (front : operand.tokens <+: whole) :
      operand.tokens.head? = whole.head? := by
    obtain ⟨rest, rfl⟩ := front
    cases operand <;> rfl
  rw [first.length_tokens, second.length_tokens, head first firstFront, head second secondFront]

theorem Header.length_tokens (header : Header) :
    header.tokens.length = header.condition.operand.tokens.length + 5 := by
  simp [Header.tokens, Condition.tokens]

/-- Headers at the front of the same tokens are equally long. -/
theorem Header.length_eq_of_isPrefix {first second : Header} {whole : List Token}
    (firstFront : first.tokens <+: whole) (secondFront : second.tokens <+: whole) :
    first.tokens.length = second.tokens.length := by
  have operandFront (header : Header) (front : header.tokens <+: whole) :
      header.condition.operand.tokens <+: ((whole.drop 1).drop 1).drop 2 := by
    obtain ⟨-, -, condition, -⟩ := Step.framed_isPrefix_iff.mp front
    exact (append_isPrefix_iff.mp condition).2
  rw [first.length_tokens, second.length_tokens,
    Operand.length_eq_of_isPrefix (operandFront first firstFront)
      (operandFront second secondFront)]

end Grammar

open Grammar Step

/-! ### The place of a statement that fails -/

/-- The token at the mark, once tokens behind the completed statements were passed. -/
theorem Completed.getElem?_behind {tokens : List Token} {file : String} {program : List Form}
    (completed : Completed tokens file program) {passed : List Token}
    (front : passed <+: (Session.behind tokens file program).stream.ahead) :
    (closedTokens tokens file)[(programTokens program).length + passed.length]? =
      some ((Session.behind tokens file program).stream.pass passed.length).current := by
  rw [← completed.index_behind, ← TokenStream.index_pass front,
    ← toList_behind tokens file program, ← TokenStream.toList_pass _ passed.length]
  exact TokenStream.getElem?_index _

/-- A statement that fails is reported at its first token, or at the first token behind a header
if a whole one was passed. -/
theorem Step.position_of_fails_statement {session after : Session} {diagnosis : Diagnosis}
    (registered : session.productions = grammarProductions)
    (failed : Fails statement session diagnosis after) :
    ∃ count, after.stream = session.stream.pass count ∧
      after.statementStart = diagnosis.position ∧
      (∀ header : Header, header.tokens <+: session.stream.ahead.take count →
        (session.stream.pass header.tokens.length).current.span.start = diagnosis.position) ∧
      ((∀ header : Header, ¬ header.tokens <+: session.stream.ahead.take count) →
        session.stream.current.span.start = diagnosis.position) := by
  rcases fails_statement_cases registered failed with
    ⟨count, rfl, reported, outside⟩ | ⟨opened, front, count, rfl, reported⟩
  · refine ⟨count, rfl, reported.symm, fun header inside => ?_, fun _ => reported.symm⟩
    have short : (session.stream.pass count).index < _ :=
      outside header (inside.trans (List.take_prefix count _))
    rw [TokenStream.index_pass_take] at short
    have reached := inside.length_le
    omega
  · refine ⟨opened.tokens.length + count, TokenStream.pass_pass .., reported.symm,
      fun header inside => ?_, fun outside => ?_⟩
    · rw [Header.length_eq_of_isPrefix (inside.trans (List.take_prefix _ _)) front]
      exact reported.symm
    · exact absurd (List.prefix_take_iff.mpr ⟨front, Nat.le_add_right _ _⟩) (outside opened)

/-! ### The place of a run that fails -/

/-- A run that fails reports its diagnosis at the start of the statement that failed: the first
token behind the complete statements, or behind the header of a conditional if the tokens read
since then begin with one. -/
theorem position_of_validate_eq_error {tokens : List Token} {file : String}
    {diagnosis : Diagnosis} (failed : (validate tokens file).outcome = .error diagnosis) :
    let read := closedTokens tokens file
    let session := (validate tokens file).session
    ∃ begun, IsGreatest
        {count | count ≤ session.stream.index ∧ AcceptedAlone read file count} begun ∧
      (∀ header : Header, header.tokens <+: (read.take session.stream.index).drop begun →
        (read[begun + header.tokens.length]?).map (fun token => token.span.start) =
          some diagnosis.position) ∧
      ((∀ header : Header, ¬ header.tokens <+: (read.take session.stream.index).drop begun) →
        (read[begun]?).map (fun token => token.span.start) = some diagnosis.position) ∧
      session.statementStart = diagnosis.position := by
  intro read session
  obtain ⟨program, completed⟩ := exists_completed tokens file
  obtain ⟨-, last, fails, left⟩ := completed.session_of_error failed
  obtain ⟨count, moved, started, inBody, atStart⟩ :=
    position_of_fails_statement (Completed.productions_behind tokens file program) fails
  have stream : (validate tokens file).session.stream = last.stream := by rw [left]
  have behind : (read.take session.stream.index).drop (programTokens program).length =
      (Session.behind tokens file program).stream.ahead.take count := by
    rw [completed.take_index (stream.trans moved), List.drop_left]
  have start : (validate tokens file).session.statementStart = last.statementStart := by rw [left]
  refine ⟨_, completed.isGreatest, fun header inside => ?_, fun outside => ?_,
    start.trans started⟩
  · rw [behind] at inside
    rw [completed.getElem?_behind (inside.trans (List.take_prefix count _)), Option.map_some,
      inBody header inside]
  · rw [behind] at outside
    have first := completed.getElem?_behind List.nil_prefix
    rw [List.length_nil, Nat.add_zero] at first
    rw [first, Option.map_some, ← atStart outside]
    rfl

/-- The header of the conditional is whole, so the declaration behind it is reported on its own
line, and not on the line of the conditional. -/
theorem position_of_validate_guardedDeclaration :
    (validate guardedDeclaration "shell").outcome =
      .error ⟨.unexpectedTokenDetailed "y" "declarations are not allowed in an If body",
        ⟨3, 1, "shell"⟩⟩ ∧
    ∃ begun, IsGreatest
        {count | count ≤ 10 ∧
          AcceptedAlone (closedTokens guardedDeclaration "shell") "shell" count} begun ∧
      (∀ header : Header,
        header.tokens <+: ((closedTokens guardedDeclaration "shell").take 10).drop begun →
        ((closedTokens guardedDeclaration "shell")[begun + header.tokens.length]?).map
          (fun token => token.span.start) = some ⟨3, 1, "shell"⟩) ∧
      (validate guardedDeclaration "shell").session.statementStart = ⟨3, 1, "shell"⟩ := by
  obtain ⟨failed, index⟩ := validate_guardedDeclaration
  obtain ⟨begun, greatest, inBody, -, started⟩ := position_of_validate_eq_error failed
  rw [index] at greatest inBody
  exact ⟨failed, begun, greatest, inBody, started⟩

end HLang
