/-
This file relates a fault to the place where the session has met it. Text that is not of the
language and the end of the input are the current token; a token that does not fit is the current
one as well, and is neither of these. Where a semicolon is missing, the tokens before are those of a
statement without it. A fault of scope or type is found in the tokens before: an undeclared name
stands there, or a whole declaration or assignment.

A step is explained if whatever it fails with describes the session that it leaves. That holds of
steps that follow one another as soon as it holds of each where the others have led, so the tokens
passed by a production are collected on the way.
-/

import HLang.Proofs.Grammar.Stem
import HLang.Proofs.Session.Cuts

namespace HLang

open Grammar

/-! ### What a fault says of its place -/

/-- What the fault says of the tokens before the place where it was met, of the token there, and of
the declared variables. -/
def Fault.Describes (before : List Token) (current : Token) (table : SymbolTable) : Fault → Prop
  | .unrecognisedToken token => current.kind = .unknown ∧ current.value = token
  | .unexpectedEndOfInput _ => current.kind = .endOfInput
  | .unexpectedToken token =>
    ¬ IsBarrier current.kind ∧ current.value = token ∧ ∃ form : Form, form.stem <:+ before
  | .unexpectedTokenDetailed token _ => ¬ IsBarrier current.kind ∧ current.value = token
  | .undeclaredIdentifier identifier =>
    table.find? identifier = none ∧ ∃ name : Leaf [.identifier], name.token.value = identifier ∧
      ([name.token] <:+ before ∨
        ∃ sign : Leaf [.colonEquals], [name.token, sign.token] <:+ before)
  | .duplicateDeclaration identifier =>
    (table.find? identifier).isSome ∧ ∃ tree : Declaration, tree.name.token.value = identifier ∧
      tree.tokens <:+ before
  | .typeMismatch expected received =>
    expected = "integer" ∧ received = "double" ∧ ∃ tree : Assignment, tree.tokens <:+ before ∧
      table.find? tree.target.token.value = some .integer ∧
      ∃ operand ∈ tree.value.operands, operand.HasType table.scope .double

namespace Session

/-- The tokens that were passed, in their order. -/
def seen (session : Session) : List Token :=
  session.stream.passed.reverse

/-- The fault describes where the session stands. -/
def Explains (session : Session) (fault : Fault) : Prop :=
  fault.Describes session.seen session.current session.symbols

variable {session : Session}

theorem seen_pass {tokens : List Token} (front : tokens <+: session.stream.ahead) :
    (session.pass tokens.length).seen = session.seen ++ tokens := by
  show ((session.stream.ahead.take tokens.length).reverse ++ session.stream.passed).reverse = _
  rw [← List.prefix_iff_eq_take.mp front, List.reverse_append, List.reverse_reverse]
  rfl

theorem seen_pass_one {token : Token} (front : [token] <+: session.stream.ahead) :
    (session.pass 1).seen = session.seen ++ [token] :=
  seen_pass front

/-- Whatever was expected, the diagnosis of an unexpected token is about the current one. -/
theorem explains_unexpected (session : Session) (expected : String) :
    session.Explains (session.unexpected expected).fault := by
  unfold unexpected
  split
  · rename_i kind
    exact ⟨kind, rfl⟩
  · rename_i kind
    exact kind
  · rename_i known notEnd
    exact ⟨not_or.mpr ⟨known, notEnd⟩, rfl⟩

/-- Behind the stem of a statement, a missing semicolon is explained. -/
theorem explains_missingSemicolon {form : Form} (stem : form.stem <:+ session.seen) :
    session.Explains session.missingSemicolon.fault := by
  unfold missingSemicolon
  split
  · exact session.explains_unexpected _
  · exact session.explains_unexpected _
  · rename_i known notEnd
    exact ⟨not_or.mpr ⟨known, notEnd⟩, rfl, form, stem⟩

end Session

namespace Step

variable {Value First Second : Type} {session : Session}

/-! ### Steps that explain their failures -/

/-- If the step fails in the session, the fault describes where it has ended. -/
def Explained (step : Step Value) (session : Session) : Prop :=
  ∀ diagnosis after, Fails step session diagnosis after → after.Explains diagnosis.fault

theorem Explained.bind {first : Step First} {second : First → Step Second}
    (firstExplained : Explained first session)
    (secondExplained : ∀ value between, Yields first session value between →
      Explained (second value) between) :
    Explained (first >>= second) session := by
  intro diagnosis after failed
  rcases fails_bind_iff.mp failed with failed | ⟨value, between, yields, failed⟩
  · exact firstExplained diagnosis after failed
  · exact secondExplained value between yields diagnosis after failed

/-- Two steps with the same run explain the same. -/
theorem Explained.congr {step other : Step Value} {start : Session}
    (explained : Explained other start) (same : step session = other start) :
    Explained step session :=
  fun diagnosis after failed => explained diagnosis after (same.symm.trans failed)

theorem explained_pure (value : Value) : Explained (pure value : Step Value) session :=
  fun _ _ failed => nomatch congrArg Prod.fst failed

theorem explained_close (kind : StatementKind) (opening : Opening) :
    Explained (close kind opening) session :=
  fun _ _ failed => absurd failed not_fails_close

theorem explained_get_bind {step : Session → Step Value}
    (later : Explained (step session) session) : Explained (get >>= step) session :=
  later

theorem explained_opening_bind {step : Opening → Step Value}
    (later : ∀ opening, Explained (step opening) session) : Explained (opening >>= step) session :=
  later ⟨session.current.span.start, session.stream.index⟩

theorem explained_next_bind {step : Token → Step Value}
    (later : Explained (step session.current) (session.pass 1)) :
    Explained (next >>= step) session := by
  refine later.congr ?_
  rw [bind_run, next_run, Session.advance_eq_pass]

theorem explained_refuse (expected : String) :
    Explained (refuse expected : Step Value) session := by
  intro diagnosis after failed
  obtain ⟨rfl, rfl⟩ := error_eq_error_iff.mp failed
  exact session.explains_unexpected expected

theorem explained_fail {fault : Fault} (explains : session.Explains fault) :
    Explained (fail fault : Step Value) session := by
  intro diagnosis after failed
  obtain ⟨rfl, rfl⟩ := error_eq_error_iff.mp failed
  exact explains

/-- A token that was expected and is there is a leaf behind which the step goes on. -/
theorem explained_expectOr_bind {kind : TokenKind} {otherwise : Session → Diagnosis}
    {step : Token → Step Value} (notEnd : kind ≠ .endOfInput)
    (explains : session.Explains (otherwise session).fault)
    (later : ∀ leaf : Leaf [kind], [leaf.token] <+: session.stream.ahead →
      Explained (step leaf.token) (session.pass 1)) :
    Explained (expectOr kind otherwise >>= step) session := by
  refine .bind (fun diagnosis after failed => ?_) fun token between yields => ?_
  · unfold Fails at failed
    rw [expectOr_run] at failed
    split at failed
    · exact absurd failed.symm error_ne_ok
    · obtain ⟨rfl, rfl⟩ := error_eq_error_iff.mp failed
      exact explains
  · obtain ⟨found, front, rfl⟩ := (yields_expectOr_iff notEnd).mp yields
    exact later ⟨token, List.mem_singleton.mpr found⟩ front

theorem explained_expect_bind {kind : TokenKind} {step : Token → Step Value}
    (notEnd : kind ≠ .endOfInput)
    (later : ∀ leaf : Leaf [kind], [leaf.token] <+: session.stream.ahead →
      Explained (step leaf.token) (session.pass 1)) :
    Explained (expect kind >>= step) session :=
  explained_expectOr_bind notEnd (session.explains_unexpected _) later

theorem explained_expectSemicolon_bind {step : Token → Step Value} (form : Form)
    (stem : form.stem <:+ session.seen)
    (later : ∀ leaf : Leaf [.semicolon], [leaf.token] <+: session.stream.ahead →
      Explained (step leaf.token) (session.pass 1)) :
    Explained (expectSemicolon >>= step) session :=
  explained_expectOr_bind (by decide) (Session.explains_missingSemicolon stem) later

/-- A name is looked up behind it, or behind the assignment sign that follows it. -/
theorem explained_lookUp (name : Leaf [.identifier])
    (place : [name.token] <:+ session.seen ∨
      ∃ sign : Leaf [.colonEquals], [name.token, sign.token] <:+ session.seen) :
    Explained (lookUp name.token.value) session := by
  intro diagnosis after failed
  unfold Fails at failed
  rw [lookUp_run] at failed
  cases known : session.symbols.find? name.token.value with
  | some type =>
    rw [known] at failed
    exact absurd failed.symm error_ne_ok
  | none =>
    rw [known] at failed
    obtain ⟨rfl, rfl⟩ := error_eq_error_iff.mp failed
    exact ⟨known, name, rfl, place⟩

/-! ### Expressions and conditions -/

theorem explained_literal (session : Session) : Explained literal session := by
  refine explained_get_bind ?_
  split
  · exact explained_next_bind (explained_pure _)
  · exact explained_next_bind (explained_pure _)
  · exact explained_refuse _

theorem explained_operand (session : Session) : Explained operand session := by
  refine explained_get_bind ?_
  split
  · rename_i kind
    let name : Leaf [.identifier] := ⟨session.current, List.mem_singleton.mpr kind⟩
    have front : [name.token] <+: session.stream.ahead :=
      Session.current_isPrefix (by rw [kind]; decide)
    refine explained_next_bind (explained_lookUp name (Or.inl ?_))
    rw [Session.seen_pass_one front]
    exact List.suffix_append _ _
  · exact explained_literal session
  · exact explained_literal session
  · exact explained_next_bind (explained_literal _)
  · rename_i kind
    exact explained_fail ⟨by rw [kind]; decide, rfl⟩
  · exact explained_refuse _

theorem explained_sumFrom (left : ScalarType) (session : Session) :
    Explained (sumFrom left) session := by
  induction left, session using sumFrom_induction with
  | round left session inductionHypothesis =>
    rw [sumFrom_eq]
    refine explained_get_bind ?_
    split
    · rename_i sign
      refine explained_next_bind (.bind (explained_operand _) fun right between yields => ?_)
      rw [← Session.advance_eq_pass] at yields
      exact inductionHypothesis sign right between yields
    · exact explained_pure _

theorem explained_expression (session : Session) : Explained expression session :=
  .bind (explained_operand session) fun left between _ => explained_sumFrom left between

theorem explained_relation (session : Session) : Explained relation session := by
  refine explained_get_bind ?_
  split
  · exact explained_next_bind (explained_pure _)
  · exact explained_refuse _

theorem explained_condition (session : Session) : Explained condition session := by
  refine explained_expect_bind (by decide) fun subject front => ?_
  refine .bind (explained_lookUp subject (Or.inl ?_)) fun _ between _ => ?_
  · rw [Session.seen_pass_one front]
    exact List.suffix_append _ _
  · exact .bind (explained_relation between) fun _ between _ =>
      .bind (explained_operand between) fun _ between _ => explained_pure _

/-! ### Declarations, assignments and outputs -/

theorem explained_typeName (session : Session) : Explained typeName session := by
  refine explained_get_bind ?_
  split
  · exact explained_next_bind (explained_pure _)
  · exact explained_refuse _

theorem explained_declare (tree : Declaration) (tokens : tree.tokens <:+ session.seen) :
    Explained (declare tree.name.token.value tree.word.type) session := by
  intro diagnosis after failed
  unfold Fails at failed
  rw [declare_run] at failed
  split at failed
  · exact absurd failed.symm error_ne_ok
  · rename_i refused
    obtain ⟨known, rfl⟩ := SymbolTable.declare_eq_error_iff.mp refused
    obtain ⟨rfl, rfl⟩ := error_eq_error_iff.mp failed
    exact ⟨known, tree, rfl, tokens⟩

/-- A declaration is explained by its own tokens, whole or without the semicolon. -/
theorem explained_declaration (session : Session) : Explained declaration session := by
  refine explained_opening_bind fun opening => ?_
  refine explained_expect_bind (by decide) fun name nameFront => ?_
  refine explained_expect_bind (by decide) fun colon colonFront => ?_
  refine .bind (explained_typeName _) fun type between yields => ?_
  obtain ⟨word, wordFront, rfl, rfl⟩ := yields_typeName_iff.mp yields
  have stem : (((session.pass 1).pass 1).pass 1).seen =
      session.seen ++ [name.token, colon.token, word.token] := by
    rw [Session.seen_pass_one wordFront, Session.seen_pass_one colonFront,
      Session.seen_pass_one nameFront, List.append_assoc, List.append_assoc]
    rfl
  let form (semicolon : Leaf [.semicolon]) : Declaration := ⟨name, colon, word, semicolon⟩
  refine explained_expectSemicolon_bind (.declaration (form default)) ?_
    fun semicolon front => ?_
  · rw [stem]
    exact List.suffix_append _ _
  · refine .bind (explained_declare (form semicolon) ?_)
      fun _ _ _ => explained_close _ opening
    rw [Session.seen_pass_one front, stem, List.append_assoc]
    exact List.suffix_append _ _

theorem explained_checkFit (tree : Assignment) {target given : ScalarType}
    (declared : session.symbols.find? tree.target.token.value = some target)
    (typed : tree.value.HasType session.symbols.scope given)
    (tokens : tree.tokens <:+ session.seen) : Explained (checkFit target given) session := by
  unfold checkFit
  split
  · exact explained_pure _
  · rename_i refused
    obtain ⟨rfl, rfl⟩ : target = .integer ∧ given = .double := by
      cases target <;> cases given <;> simp_all [ScalarType.accepts]
    exact explained_fail ⟨rfl, rfl, tree, tokens, declared, typed.2.mp rfl⟩

/-- An assignment is explained by its target and sign, or by its own tokens, whole or without the
semicolon. -/
theorem explained_assignment (session : Session) : Explained assignment session := by
  refine explained_opening_bind fun opening => ?_
  refine explained_expect_bind (by decide) fun target targetFront => ?_
  refine explained_expect_bind (by decide) fun sign signFront => ?_
  have opened : ((session.pass 1).pass 1).seen =
      session.seen ++ [target.token, sign.token] := by
    rw [Session.seen_pass_one signFront, Session.seen_pass_one targetFront, List.append_assoc]
    rfl
  refine .bind (explained_lookUp target (Or.inr ⟨sign, ?_⟩)) fun type between yields => ?_
  · rw [opened]
    exact List.suffix_append _ _
  obtain ⟨declared, rfl⟩ := yields_lookUp_iff.mp yields
  refine .bind (explained_expression _) fun given between yields => ?_
  obtain ⟨value, valueFront, typed, rfl, -⟩ := yields_expression_iff.mp yields
  let tree (semicolon : Leaf [.semicolon]) : Assignment := ⟨target, sign, value, semicolon⟩
  have stem : (((session.pass 1).pass 1).pass value.tokens.length).seen =
      session.seen ++ ([target.token, sign.token] ++ value.tokens) := by
    rw [Session.seen_pass valueFront, opened, List.append_assoc]
  refine explained_expectSemicolon_bind (.simple (.assignment (tree default))) ?_
    fun semicolon front => ?_
  · rw [stem]
    exact List.suffix_append _ _
  · refine .bind (explained_checkFit (tree semicolon) declared typed ?_)
      fun _ _ _ => explained_close _ opening
    rw [Session.seen_pass_one front, stem, List.append_assoc]
    exact List.suffix_append _ _

theorem explained_identifierStatement (session : Session) :
    Explained identifierStatement session := by
  refine explained_get_bind ?_
  split
  · exact explained_declaration session
  · exact explained_assignment session
  · exact explained_next_bind (explained_refuse _)

theorem explained_shown (session : Session) : Explained shown session := by
  refine explained_get_bind ?_
  split
  · exact explained_next_bind (explained_pure _)
  · exact .bind (explained_expression session) fun _ _ _ => explained_pure _

theorem explained_output (session : Session) : Explained output session := by
  refine explained_opening_bind fun opening => ?_
  refine explained_expect_bind (by decide) fun word wordFront => ?_
  refine explained_expect_bind (by decide) fun sign signFront => ?_
  refine .bind (explained_shown _) fun _ between yields => ?_
  obtain ⟨shown, shownFront, -, rfl, -⟩ := yields_shown_iff.mp yields
  let tree : Output := ⟨word, sign, shown, default⟩
  refine explained_expectSemicolon_bind (.simple (.output tree)) ?_
    fun _ _ => explained_close _ opening
  rw [Session.seen_pass shownFront, Session.seen_pass_one signFront,
    Session.seen_pass_one wordFront, List.append_assoc, List.append_assoc]
  exact List.suffix_append _ _

/-! ### Bodies, conditionals and statements -/

theorem explained_guarded (session : Session) : Explained guarded session := by
  refine explained_get_bind ?_
  split
  · rename_i kind
    split
    · exact explained_fail ⟨by rw [kind]; decide, rfl⟩
    · exact explained_identifierStatement session
  · exact explained_output session
  · rename_i kind
    exact explained_fail ⟨by rw [kind]; decide, rfl⟩
  · exact explained_refuse _

theorem explained_body (session : Session) : Explained body session := by
  have inner : Explained (guarded >>= fun clause => enter .scanning >>= fun _ => pure clause)
      session.enterBody :=
    .bind (explained_guarded _) fun clause between _ => explained_pure clause
  exact inner

theorem explained_conditional (session : Session) : Explained conditional session := by
  refine explained_opening_bind fun opening => ?_
  refine explained_expect_bind (by decide) fun word _ => ?_
  refine explained_expect_bind (by decide) fun left _ => ?_
  refine .bind (explained_condition _) fun _ between _ => ?_
  refine explained_expect_bind (by decide) fun right _ => ?_
  refine .bind (explained_body _) fun inner between _ => ?_
  exact .bind (explained_close _ opening) fun outer between _ => explained_pure _

theorem explained_alone {step : Step Clause} (explained : Explained step session) :
    Explained (alone step) session :=
  explained.bind fun _ _ _ => explained_pure _

/-- Whatever a statement fails with describes where the session has ended. -/
theorem explained_statement (registered : session.productions = grammarProductions) :
    Explained statement session := by
  rcases statement_cases registered with
    ⟨-, same⟩ | ⟨-, same⟩ | ⟨-, same⟩ | ⟨-, same⟩
  · exact (explained_alone (explained_identifierStatement _)).congr same
  · exact (explained_alone (explained_output _)).congr same
  · exact (explained_conditional _).congr same
  · exact (explained_refuse _).congr same

end Step

end HLang
