/-
This file says what a step leaves behind when it fails. A production changes nothing before it
succeeds, except for the mark, and it reports the fault at the start of the statement being
checked. Only the body of a conditional is entered before it is checked: from then on the body
is the statement being checked.

So a statement that fails has declared nothing, and its fault is reported either at its own start,
and then no header of a conditional was passed, or behind such a header.
-/

import HLang.Proofs.Session.Statements

namespace HLang

open Grammar

/-- The session that has entered the body of a conditional at the current token. -/
def Session.enterBody (session : Session) : Session :=
  { session with phase := .inConditionalBody, statementStart := session.current.span.start }

namespace Step

variable {Value First Second : Type} {session after : Session} {diagnosis : Diagnosis}

/-! ### Steps that fail -/

/-- The step fails in the session with the given diagnosis, and ends in the session `after`. -/
def Fails (step : Step Value) (session : Session) (diagnosis : Diagnosis) (after : Session) :
    Prop :=
  step session = (.error diagnosis, after)

theorem error_eq_error_iff {given : Diagnosis} {between : Session} :
    ((.error given, between) : Except Diagnosis Value × Session) = (.error diagnosis, after) ↔
      given = diagnosis ∧ between = after := by
  rw [Prod.mk.injEq, Except.error.injEq]

theorem fails_bind_iff {first : Step First} {second : First → Step Second} :
    Fails (first >>= second) session diagnosis after ↔
      Fails first session diagnosis after ∨
        ∃ value between, Yields first session value between ∧
          Fails (second value) between diagnosis after := by
  unfold Fails Yields
  rw [bind_run]
  rcases first session with ⟨other | value, between⟩
  · refine ⟨fun same => Or.inl (error_eq_error_iff.mpr (error_eq_error_iff.mp same)), ?_⟩
    rintro (same | ⟨value, next, same, -⟩)
    · exact error_eq_error_iff.mpr (error_eq_error_iff.mp same)
    · exact absurd same error_ne_ok
  · refine ⟨fun run => Or.inr ⟨value, between, rfl, run⟩, ?_⟩
    rintro (same | ⟨other, next, same, run⟩)
    · exact absurd same.symm error_ne_ok
    · obtain ⟨rfl, rfl⟩ := ok_eq_ok_iff.mp same
      exact run

/-! ### Steps that only read -/

/-- Whether it succeeds or fails, the step has moved nothing but the mark, and a failure is
reported at the start of the statement being checked. -/
def Reads (step : Step Value) : Prop :=
  ∀ session, ∃ count, (step session).2 = session.pass count ∧
    ∀ diagnosis, (step session).1 = .error diagnosis →
      diagnosis.position = session.statementStart

theorem reads_pure (value : Value) : Reads (pure value : Step Value) :=
  fun _ => ⟨0, rfl, fun _ failed => nomatch failed⟩

theorem reads_get : Reads (get : Step Session) :=
  fun _ => ⟨0, rfl, fun _ failed => nomatch failed⟩

theorem reads_refuse (expected : String) : Reads (refuse expected : Step Value) :=
  fun _ => ⟨0, rfl, fun _ failed => by rw [← Except.error.inj failed]; rfl⟩

theorem reads_fail (fault : Fault) : Reads (fail fault : Step Value) :=
  fun _ => ⟨0, rfl, fun _ failed => by rw [← Except.error.inj failed]; rfl⟩

theorem reads_next : Reads next :=
  fun session => ⟨1, session.advance_eq_pass, fun _ failed => nomatch failed⟩

theorem Reads.bind {first : Step First} {second : First → Step Second}
    (firstReads : Reads first) (secondReads : ∀ value, Reads (second value)) :
    Reads (first >>= second) := by
  intro session
  obtain ⟨count, moved, reported⟩ := firstReads session
  rw [bind_run]
  rcases run : first session with ⟨diagnosis | value, between⟩
  · rw [run] at moved reported
    refine ⟨count, moved, fun _ failed => reported _ ?_⟩
    exact congrArg Except.error (Except.error.inj failed)
  · rw [run] at moved
    obtain ⟨more, movedOn, reportedOn⟩ := secondReads value between
    subst moved
    exact ⟨count + more, movedOn.trans (Session.pass_pass session count more), reportedOn⟩

theorem reads_expectOr (kind : TokenKind) {otherwise : Session → Diagnosis}
    (position : ∀ session, (otherwise session).position = session.statementStart) :
    Reads (expectOr kind otherwise) := by
  intro session
  rw [expectOr_run]
  split
  · exact reads_next session
  · refine ⟨0, rfl, fun _ failed => ?_⟩
    rw [← Except.error.inj failed]
    exact position session

theorem reads_expect (kind : TokenKind) : Reads (expect kind) :=
  reads_expectOr kind fun _ => rfl

theorem reads_expectSemicolon : Reads expectSemicolon := by
  refine reads_expectOr .semicolon fun session => ?_
  unfold Session.missingSemicolon
  split <;> rfl

theorem reads_lookUp (name : String) : Reads (lookUp name) := by
  refine reads_get.bind fun session => ?_
  split
  · exact reads_pure _
  · exact reads_fail _

theorem reads_opening : Reads opening :=
  reads_get.bind fun _ => reads_pure _

theorem reads_close (kind : StatementKind) (opening : Opening) : Reads (close kind opening) :=
  reads_get.bind fun _ => reads_pure _

theorem reads_literal : Reads literal := by
  refine reads_get.bind fun session => ?_
  split
  · exact reads_next.bind fun _ => reads_pure _
  · exact reads_next.bind fun _ => reads_pure _
  · exact reads_refuse _

theorem reads_operand : Reads operand := by
  refine reads_get.bind fun session => ?_
  split
  · exact reads_next.bind fun name => reads_lookUp name.value
  · exact reads_literal
  · exact reads_literal
  · exact reads_next.bind fun _ => reads_literal
  · exact reads_fail _
  · exact reads_refuse _

theorem reads_sumFrom (left : ScalarType) : Reads (sumFrom left) := by
  intro session
  fun_induction sumFrom left session with
  | case1 left session sign right between run inductionHypothesis =>
    obtain ⟨count, moved, -⟩ := reads_operand session.advance
    rw [run, Session.advance_eq_pass, Session.pass_pass] at moved
    obtain ⟨more, movedOn, reported⟩ := inductionHypothesis
    subst moved
    exact ⟨1 + count + more, movedOn.trans (Session.pass_pass session _ _), reported⟩
  | case2 left session sign diagnosis between run =>
    obtain ⟨count, moved, reported⟩ := reads_operand session.advance
    rw [run, Session.advance_eq_pass, Session.pass_pass] at moved
    rw [run, Session.advance_eq_pass] at reported
    exact ⟨1 + count, moved, reported⟩
  | case3 left session noSign => exact reads_pure left session

theorem reads_expression : Reads expression :=
  reads_operand.bind reads_sumFrom

theorem reads_relation : Reads relation := by
  refine reads_get.bind fun session => ?_
  split
  · exact reads_next
  · exact reads_refuse _

theorem reads_condition : Reads condition :=
  (reads_expect _).bind fun subject => (reads_lookUp subject.value).bind fun _ =>
    reads_relation.bind fun _ => reads_operand.bind fun _ => reads_pure _

theorem reads_typeName : Reads typeName := by
  refine reads_get.bind fun session => ?_
  split
  · exact reads_next.bind fun _ => reads_pure _
  · exact reads_refuse _

theorem reads_checkFit (target value : ScalarType) : Reads (checkFit target value) := by
  unfold checkFit
  split
  · exact reads_pure _
  · exact reads_fail _

theorem reads_assignment : Reads assignment :=
  reads_opening.bind fun opening => (reads_expect _).bind fun name =>
    (reads_expect _).bind fun _ => (reads_lookUp name.value).bind fun target =>
    reads_expression.bind fun value => reads_expectSemicolon.bind fun _ =>
    (reads_checkFit target value).bind fun _ => reads_close .assignment opening

theorem reads_shown : Reads shown := by
  refine reads_get.bind fun session => ?_
  split
  · exact reads_next.bind fun _ => reads_pure _
  · exact reads_expression.bind fun _ => reads_pure _

theorem reads_output : Reads output :=
  reads_opening.bind fun opening => (reads_expect _).bind fun _ =>
    (reads_expect _).bind fun _ => reads_shown.bind fun _ =>
    reads_expectSemicolon.bind fun _ => reads_close .output opening

/-! ### Statements that fail -/

/-- If the step fails, it has moved nothing but the mark, and the failure is reported at the start
of the statement being checked. -/
def Undoes (step : Step Value) : Prop :=
  ∀ session diagnosis after, Fails step session diagnosis after →
    ∃ count, after = session.pass count ∧ diagnosis.position = session.statementStart

theorem Reads.undoes {step : Step Value} (reads : Reads step) : Undoes step := by
  intro session diagnosis after failed
  obtain ⟨count, moved, reported⟩ := reads session
  rw [show step session = (.error diagnosis, after) from failed] at moved reported
  exact ⟨count, moved, reported diagnosis rfl⟩

theorem Undoes.bind {first : Step First} {second : First → Step Second} (firstReads : Reads first)
    (secondUndoes : ∀ value, Undoes (second value)) : Undoes (first >>= second) := by
  intro session diagnosis after failed
  rcases fails_bind_iff.mp failed with failed | ⟨value, between, yields, failed⟩
  · exact firstReads.undoes session diagnosis after failed
  · obtain ⟨count, moved, -⟩ := firstReads session
    rw [show first session = (.ok value, between) from yields] at moved
    obtain ⟨more, rfl, reported⟩ := secondUndoes value between diagnosis after failed
    rw [show between = session.pass count from moved] at reported ⊢
    exact ⟨count + more, Session.pass_pass session count more, reported⟩

theorem undoes_declare (name : String) (type : ScalarType) : Undoes (declare name type) := by
  intro session diagnosis after failed
  unfold Fails at failed
  rw [declare_run] at failed
  split at failed
  · exact absurd failed.symm error_ne_ok
  · rename_i refused
    obtain ⟨-, rfl⟩ := SymbolTable.declare_eq_error_iff.mp refused
    obtain ⟨rfl, rfl⟩ := error_eq_error_iff.mp failed
    exact ⟨0, rfl, rfl⟩

theorem not_fails_close {kind : StatementKind} {opening : Opening} :
    ¬ Fails (close kind opening) session diagnosis after :=
  fun failed => nomatch congrArg Prod.fst failed

/-- A declaration that fails, at whichever of its tokens, has declared nothing. -/
theorem undoes_declaration : Undoes declaration := by
  refine .bind reads_opening fun opening => .bind (reads_expect _) fun name =>
    .bind (reads_expect _) fun _ => .bind reads_typeName fun type =>
    .bind reads_expectSemicolon fun _ => ?_
  intro session diagnosis after failed
  rcases fails_bind_iff.mp failed with refused | ⟨_, between, _, closed⟩
  · exact undoes_declare name.value type session diagnosis after refused
  · exact absurd closed not_fails_close

theorem undoes_identifierStatement : Undoes identifierStatement := by
  refine .bind reads_get fun session => ?_
  split
  · exact undoes_declaration
  · exact reads_assignment.undoes
  · exact (reads_next.bind fun _ => reads_refuse _).undoes

theorem undoes_guarded : Undoes guarded := by
  refine .bind reads_get fun session => ?_
  split
  · split
    · exact (reads_fail _).undoes
    · exact undoes_identifierStatement
  · exact reads_output.undoes
  · exact (reads_fail _).undoes
  · exact (reads_refuse _).undoes

/-! ### Conditionals that fail -/

/-- A body that fails has been entered, and the failure is reported at its start. -/
theorem exists_count_of_fails_body (failed : Fails body session diagnosis after) :
    ∃ count, after = session.enterBody.pass count ∧
      diagnosis.position = session.current.span.start := by
  have inner : Fails (guarded >>= fun clause => enter .scanning >>= fun _ => pure clause)
      session.enterBody diagnosis after := failed
  rcases fails_bind_iff.mp inner with failed | ⟨clause, between, _, left⟩
  · exact undoes_guarded session.enterBody diagnosis after failed
  · exact nomatch congrArg Prod.fst left

theorem fails_expect {kind : TokenKind} (failed : Fails (expect kind) session diagnosis after) :
    session = after ∧ diagnosis.position = session.statementStart := by
  unfold Fails expect at failed
  rw [expectOr_run] at failed
  split at failed
  · exact absurd failed.symm error_ne_ok
  · obtain ⟨rfl, rfl⟩ := error_eq_error_iff.mp failed
    exact ⟨rfl, rfl⟩

theorem index_pass_le (session : Session) (count : Nat) :
    (session.pass count).stream.index ≤ session.stream.index + count := by
  show (session.stream.pass count).index ≤ _
  rw [TokenStream.index_pass_take]
  exact Nat.add_le_add_left (List.length_take_le count _) _

theorem get_bind_run (step : Session → Step Value) :
    (get >>= step) session = step session session := rfl

theorem Yields.bind_run {first : Step First} {second : First → Step Second} {value : First}
    (yields : Yields first session value after) :
    (first >>= second) session = second value after := by
  rw [Step.bind_run, show first session = (.ok value, after) from yields]

theorem bind_pure_snd (first : Step First) (value : First → Second) :
    ((first >>= fun middle => pure (value middle)) session).2 = (first session).2 := by
  rw [bind_run]
  rcases first session with ⟨diagnosis | middle, between⟩ <;> rfl

theorem operand_of_identifier (kind : session.current.kind = .identifier) :
    operand session = lookUp session.current.value (session.pass 1) := by
  have named : operand session = (next >>= fun name => lookUp name.value) session := by
    unfold operand
    rw [get_bind_run, kind]
  rw [named, bind_run, next_run, Session.advance_eq_pass]

/-- Declared or not, an operand that stands at the front is passed. -/
theorem operand_snd_of_isPrefix {tree : Operand} (front : tree.tokens <+: session.stream.ahead) :
    (operand session).2 = session.pass tree.tokens.length := by
  have typed (type : ScalarType) (has : tree.HasType session.symbols.scope type) :
      (operand session).2 = session.pass tree.tokens.length :=
    congrArg Prod.snd (yields_operand_iff.mpr ⟨tree, front, has, rfl⟩)
  cases tree with
  | named name =>
    have kind : session.current.kind = .identifier := by
      rw [Session.current_of_isPrefix front, name.kind_eq]
    rw [operand_of_identifier kind, lookUp_run]
    split <;> rfl
  | number numeral => exact typed numeral.type rfl
  | negative sign numeral => exact typed numeral.type rfl

/-- Declared or not, a condition that stands at the front is not passed by more than its tokens. -/
theorem index_condition_le {tree : Condition} (front : tree.tokens <+: session.stream.ahead) :
    (condition session).2.stream.index ≤ session.stream.index + tree.tokens.length := by
  obtain ⟨subject, relation, operand⟩ := tree
  obtain ⟨subjectFront, front⟩ := cons_isPrefix_iff.mp front
  obtain ⟨relationFront, operandFront⟩ := cons_isPrefix_iff.mp front
  have expected : Yields (expect .identifier) session subject.token (session.pass 1) :=
    (yields_expectOr_iff (by decide)).mpr ⟨subject.kind_eq, subjectFront, rfl⟩
  have related : Yields Step.relation (session.pass 1) relation.token ((session.pass 1).pass 1) :=
    yields_relation_iff.mpr ⟨relation, relationFront, rfl, rfl⟩
  rw [Condition.tokens, List.length_append]
  unfold condition
  rw [expected.bind_run, bind_run, lookUp_run]
  cases (session.pass 1).symbols.find? subject.token.value with
  | none => exact Nat.le_trans (index_pass_le session 1) (by simp; omega)
  | some type =>
    show ((Step.relation >>= fun _ => Step.operand >>= fun _ => pure ())
      (session.pass 1)).2.stream.index ≤ _
    rw [related.bind_run, bind_pure_snd, operand_snd_of_isPrefix (by simpa using operandFront),
      Session.pass_pass, Session.pass_pass]
    exact Nat.le_trans (index_pass_le session _) (by simp; omega)

/-- A conditional fails in its header, before it has passed a whole one, or in its body. -/
theorem fails_conditional_cases (failed : Fails conditional session diagnosis after) :
    (∃ count, after = session.pass count ∧ diagnosis.position = session.statementStart ∧
      ∀ header : Header, header.tokens <+: session.stream.ahead →
        after.stream.index < session.stream.index + header.tokens.length) ∨
    ∃ header : Header, header.tokens <+: session.stream.ahead ∧
      Fails body (session.pass header.tokens.length) diagnosis after := by
  have length (header : Header) : header.tokens.length = header.condition.tokens.length + 3 := by
    simp [Header.tokens]
  -- Up to the closing parenthesis, no more than the condition of a header was passed.
  have reach {between : Session} (ends : (condition ((session.pass 1).pass 1)).2 = between)
      (header : Header) (front : header.tokens <+: session.stream.ahead) :
      between.stream.index < session.stream.index + header.tokens.length := by
    obtain ⟨-, -, conditionFront, -⟩ := framed_isPrefix_iff.mp front
    rw [← ends]
    have bound : (Step.condition ((session.pass 1).pass 1)).2.stream.index ≤ _ :=
      index_condition_le conditionFront
    rw [Session.pass_pass] at bound ⊢
    have opened := index_pass_le session (1 + 1)
    rw [length]
    omega
  rcases fails_bind_iff.mp failed with failed | ⟨opening, between, yields, failed⟩
  · exact nomatch congrArg Prod.fst failed
  obtain ⟨rfl, rfl⟩ := ok_eq_ok_iff.mp yields
  rcases fails_bind_iff.mp failed with failed | ⟨word, between, yields, failed⟩
  · obtain ⟨rfl, reported⟩ := fails_expect failed
    exact Or.inl ⟨0, rfl, reported, fun header _ => by rw [length]; omega⟩
  obtain ⟨wordKind, wordFront, rfl⟩ := (yields_expectOr_iff (by decide)).mp yields
  rcases fails_bind_iff.mp failed with failed | ⟨left, between, yields, failed⟩
  · obtain ⟨rfl, reported⟩ := fails_expect failed
    refine Or.inl ⟨1, rfl, reported, fun header _ => ?_⟩
    have opened := index_pass_le session 1
    rw [length]
    omega
  obtain ⟨leftKind, leftFront, rfl⟩ := (yields_expectOr_iff (by decide)).mp yields
  rcases fails_bind_iff.mp failed with failed | ⟨nothing, between, yields, failed⟩
  · obtain ⟨count, rfl, reported⟩ := reads_condition.undoes _ _ _ failed
    refine Or.inl ⟨1 + (1 + count), ?_, reported, reach (congrArg Prod.snd failed)⟩
    rw [Session.pass_pass, Session.pass_pass]
  obtain ⟨condition, conditionFront, -, rfl⟩ := yields_condition_iff.mp yields
  rcases fails_bind_iff.mp failed with failed | ⟨right, between, yieldsRight, failed⟩
  · obtain ⟨rfl, reported⟩ := fails_expect failed
    refine Or.inl ⟨1 + (1 + condition.tokens.length), ?_, reported,
      reach (congrArg Prod.snd yields)⟩
    rw [Session.pass_pass, Session.pass_pass]
  obtain ⟨rightKind, rightFront, rfl⟩ := (yields_expectOr_iff (by decide)).mp yieldsRight
  rcases fails_bind_iff.mp failed with failed | ⟨inner, between, yields, failed⟩
  · refine Or.inr ⟨⟨⟨word, by simp [wordKind]⟩, ⟨left, by simp [leftKind]⟩, condition,
      ⟨right, by simp [rightKind]⟩⟩, ?_, ?_⟩
    · exact framed_isPrefix_iff.mpr ⟨wordFront, leftFront, conditionFront, rightFront⟩
    · rw [passed_framed session word left right condition.tokens] at failed
      exact failed
  · rcases fails_bind_iff.mp failed with closed | ⟨outer, between, _, closed⟩
    · exact absurd closed not_fails_close
    · exact nomatch congrArg Prod.fst closed

/-! ### Statements of every form -/

theorem undoes_alone {step : Step Clause} (undoes : Undoes step) : Undoes (alone step) := by
  intro session diagnosis after failed
  rcases fails_bind_iff.mp failed with failed | ⟨clause, between, _, done⟩
  · exact undoes session diagnosis after failed
  · exact nomatch congrArg Prod.fst done

/-- A statement that fails has declared nothing. Either only the mark has moved behind the start
of the statement, where the failure is reported, and no header of a conditional was passed; or a
header was, and then the body behind it was entered and the failure is reported there. -/
theorem fails_statement_cases (registered : session.productions = grammarProductions)
    (failed : Fails statement session diagnosis after) :
    (∃ count, after = session.beginStatement.pass count ∧
      diagnosis.position = session.current.span.start ∧
      ∀ header : Header, header.tokens <+: session.stream.ahead →
        after.stream.index < session.stream.index + header.tokens.length) ∨
    ∃ header : Header, header.tokens <+: session.stream.ahead ∧
      ∃ count, after =
        (session.beginStatement.pass header.tokens.length).enterBody.pass count ∧
        diagnosis.position = (session.pass header.tokens.length).current.span.start := by
  -- No header stands where anything but the word `If` does.
  have undone (undoes : ∃ count, after = session.beginStatement.pass count ∧
        diagnosis.position = session.current.span.start)
      (other : session.current.kind ≠ .ifWord) :
      ∃ count, after = session.beginStatement.pass count ∧
        diagnosis.position = session.current.span.start ∧
        ∀ header : Header, header.tokens <+: session.stream.ahead →
          after.stream.index < session.stream.index + header.tokens.length := by
    obtain ⟨count, moved, reported⟩ := undoes
    refine ⟨count, moved, reported, fun header front => ?_⟩
    rw [Session.current_of_isPrefix front] at other
    exact absurd header.word.kind_eq other
  unfold Fails at failed
  rcases statement_cases registered with
    ⟨name, same⟩ | ⟨word, same⟩ | ⟨word, same⟩ | ⟨none, same⟩ <;> rw [same] at failed
  · exact Or.inl (undone (undoes_alone undoes_identifierStatement _ _ _ failed) (by simp [name]))
  · exact Or.inl (undone (undoes_alone reads_output.undoes _ _ _ failed) (by simp [word]))
  · rcases fails_conditional_cases failed with outside | ⟨header, front, inside⟩
    · exact Or.inl outside
    · exact Or.inr ⟨header, front, exists_count_of_fails_body inside⟩
  · refine Or.inl (undone ((reads_refuse _).undoes _ _ _ failed) fun word => ?_)
    rw [word] at none
    cases none

end Step

end HLang
