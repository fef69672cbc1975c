/-
This file shows that a fault is worded in one line. What the checker says of its own accord, which
is what it expected or what it forbids, holds no line feed; the rest of a fault is text of the
tokens that were read. So the tip beside the name of a fault takes no more than a line, as long as
every token does.

That the words of the checker are plain does not depend on the session, so it passes from the parts
of a step to the whole without a look at what the parts leave behind.
-/

import HLang.Proofs.Session.Explained

namespace HLang

open Grammar

/-! ### Texts of one line -/

/-- The text holds no line feed. -/
def OneLine (text : String) : Prop :=
  '\n' ∉ text.toList

instance (text : String) : Decidable (OneLine text) :=
  inferInstanceAs (Decidable ('\n' ∉ text.toList))

theorem oneLine_append_iff {first second : String} :
    OneLine (first ++ second) ↔ OneLine first ∧ OneLine second := by
  unfold OneLine
  rw [String.toList_append, List.mem_append, not_or]

theorem oneLine_empty : OneLine "" := by
  decide

theorem oneLine_describe (kind : TokenKind) : OneLine kind.describe := by
  cases kind <;> decide

/-- The words of the checker itself in a fault: what was expected, or what is forbidden. -/
def Fault.words : Fault → String
  | .unexpectedTokenDetailed _ message => message
  | .unexpectedEndOfInput expected => expected
  | _ => ""

/-- A fault that describes where it was met has a tip of one line, if its words and the tokens
around it have no more. -/
theorem Fault.Describes.oneLine_tip {before : List Token} {current : Token} {table : SymbolTable}
    {fault : Fault} (describes : fault.Describes before current table)
    (plain : OneLine fault.words) (tokens : ∀ token ∈ before ++ [current], OneLine token.value)
    {tip : String} (isTip : fault.tip? = some tip) : OneLine tip := by
  have atMark : OneLine current.value := tokens current List.mem_concat_self
  have passed {part : List Token} {token : Token} (member : token ∈ part)
      (behind : part <:+ before) : OneLine token.value :=
    tokens token (List.mem_append_left _ (behind.subset member))
  cases fault with
  | unrecognisedToken token => exact nomatch isTip
  | unexpectedToken token =>
    obtain ⟨-, rfl, -⟩ := describes
    obtain rfl := Option.some.inj isTip
    simp only [oneLine_append_iff]
    exact ⟨⟨by decide, atMark⟩, by decide⟩
  | unexpectedTokenDetailed token message =>
    obtain ⟨-, rfl⟩ := describes
    obtain rfl := Option.some.inj isTip
    simp only [oneLine_append_iff]
    exact ⟨⟨⟨by decide, atMark⟩, by decide⟩, plain⟩
  | unexpectedEndOfInput expected =>
    obtain rfl := Option.some.inj isTip
    exact oneLine_append_iff.mpr ⟨by decide, plain⟩
  | undeclaredIdentifier identifier =>
    obtain ⟨-, name, rfl, place⟩ := describes
    obtain rfl := Option.some.inj isTip
    have isName : OneLine name.token.value := by
      rcases place with behind | ⟨sign, behind⟩
      · exact passed List.mem_cons_self behind
      · exact passed List.mem_cons_self behind
    simp only [oneLine_append_iff]
    exact ⟨⟨by decide, isName⟩, by decide⟩
  | duplicateDeclaration identifier =>
    obtain ⟨-, tree, rfl, behind⟩ := describes
    obtain rfl := Option.some.inj isTip
    simp only [oneLine_append_iff]
    exact ⟨⟨by decide, passed List.mem_cons_self behind⟩, by decide⟩
  | typeMismatch expected received =>
    obtain ⟨rfl, rfl, -⟩ := describes
    obtain rfl := Option.some.inj isTip
    decide

theorem Session.oneLine_words_unexpected (session : Session) {expected : String}
    (plain : OneLine expected) : OneLine (session.unexpected expected).fault.words := by
  unfold unexpected
  split
  · exact oneLine_empty
  · exact plain
  · exact oneLine_append_iff.mpr ⟨by decide, plain⟩

namespace Step

variable {Value First Second : Type}

/-! ### Steps with plain words -/

/-- Whatever the step fails with, the words of the checker in it take one line. -/
def Worded (step : Step Value) : Prop :=
  ∀ session diagnosis after, Fails step session diagnosis after → OneLine diagnosis.fault.words

theorem Worded.bind {first : Step First} {second : First → Step Second}
    (firstWorded : Worded first) (secondWorded : ∀ value, Worded (second value)) :
    Worded (first >>= second) := by
  intro session diagnosis after failed
  rcases fails_bind_iff.mp failed with failed | ⟨value, between, -, failed⟩
  · exact firstWorded session diagnosis after failed
  · exact secondWorded value between diagnosis after failed

/-- A step that never fails has no words. -/
theorem worded_of_yields {step : Step Value}
    (yields : ∀ session, ∃ value after, Yields step session value after) : Worded step := by
  intro session diagnosis after failed
  obtain ⟨value, other, run⟩ := yields session
  exact absurd (failed.symm.trans run) error_ne_ok

theorem worded_pure (value : Value) : Worded (pure value : Step Value) :=
  worded_of_yields fun session => ⟨value, session, rfl⟩

theorem worded_get : Worded (get : Step Session) :=
  worded_of_yields fun session => ⟨session, session, rfl⟩

theorem worded_next : Worded next :=
  worded_of_yields fun session => ⟨session.current, session.advance, rfl⟩

theorem worded_opening : Worded opening :=
  worded_of_yields fun session => ⟨_, session, yields_opening session⟩

theorem worded_close (kind : StatementKind) (opening : Opening) : Worded (close kind opening) :=
  fun _ _ _ failed => absurd failed not_fails_close

theorem worded_fail {fault : Fault} (plain : OneLine fault.words) :
    Worded (fail fault : Step Value) := by
  intro session diagnosis after failed
  obtain ⟨rfl, -⟩ := error_eq_error_iff.mp failed
  exact plain

/-- A token that is forbidden where it stands is refused with a message. -/
theorem worded_forbid {token message : String} (plain : OneLine message) :
    Worded (fail (.unexpectedTokenDetailed token message) : Step Value) :=
  worded_fail plain

theorem worded_refuse {expected : String} (plain : OneLine expected) :
    Worded (refuse expected : Step Value) := by
  intro session diagnosis after failed
  obtain ⟨rfl, -⟩ := error_eq_error_iff.mp failed
  exact session.oneLine_words_unexpected plain

theorem worded_expectOr (kind : TokenKind) {otherwise : Session → Diagnosis}
    (plain : ∀ session, OneLine (otherwise session).fault.words) :
    Worded (expectOr kind otherwise) := by
  intro session diagnosis after failed
  unfold Fails at failed
  rw [expectOr_run] at failed
  split at failed
  · exact absurd failed.symm error_ne_ok
  · obtain ⟨rfl, -⟩ := error_eq_error_iff.mp failed
    exact plain session

theorem worded_expect (kind : TokenKind) : Worded (expect kind) :=
  worded_expectOr kind fun session => session.oneLine_words_unexpected (oneLine_describe kind)

theorem worded_expectSemicolon : Worded expectSemicolon := by
  refine worded_expectOr .semicolon fun session => ?_
  unfold Session.missingSemicolon
  split
  · exact session.oneLine_words_unexpected (oneLine_describe _)
  · exact session.oneLine_words_unexpected (oneLine_describe _)
  · exact oneLine_empty

/-- A name that is not declared is all that a fault of scope says. -/
theorem worded_lookUp (name : String) : Worded (lookUp name) := by
  refine worded_get.bind fun session => ?_
  split
  · exact worded_pure _
  · exact worded_fail oneLine_empty

theorem worded_declare (name : String) (type : ScalarType) : Worded (declare name type) := by
  intro session diagnosis after failed
  unfold Fails at failed
  rw [declare_run] at failed
  split at failed
  · exact absurd failed.symm error_ne_ok
  · rename_i refused
    obtain ⟨-, rfl⟩ := SymbolTable.declare_eq_error_iff.mp refused
    obtain ⟨rfl, -⟩ := error_eq_error_iff.mp failed
    exact oneLine_empty

/-! ### Expressions and conditions -/

theorem worded_literal : Worded literal := by
  refine worded_get.bind fun session => ?_
  split
  · exact worded_next.bind fun _ => worded_pure _
  · exact worded_next.bind fun _ => worded_pure _
  · exact worded_refuse (by decide)

theorem worded_operand : Worded operand := by
  refine worded_get.bind fun session => ?_
  split
  · exact worded_next.bind fun name => worded_lookUp name.value
  · exact worded_literal
  · exact worded_literal
  · exact worded_next.bind fun _ => worded_literal
  · exact worded_forbid (by decide)
  · exact worded_refuse (by decide)

theorem worded_sumFrom (left : ScalarType) : Worded (sumFrom left) := by
  intro session diagnosis after
  -- The loop is no step made of steps, so the induction is on its rounds.
  show sumFrom left session = (.error diagnosis, after) → _
  fun_induction sumFrom left session with
  | case1 left session sign right between run inductionHypothesis => exact inductionHypothesis
  | case2 left session sign refused between run =>
    intro failed
    obtain ⟨rfl, rfl⟩ := error_eq_error_iff.mp failed
    exact worded_operand _ _ _ run
  | case3 left session noSign => exact fun failed => absurd failed.symm error_ne_ok

theorem worded_expression : Worded expression :=
  worded_operand.bind worded_sumFrom

theorem worded_relation : Worded relation := by
  refine worded_get.bind fun session => ?_
  split
  · exact worded_next
  · exact worded_refuse (by decide)

theorem worded_condition : Worded condition :=
  (worded_expect _).bind fun subject => (worded_lookUp subject.value).bind fun _ =>
    worded_relation.bind fun _ => worded_operand.bind fun _ => worded_pure _

/-! ### Statements -/

theorem worded_typeName : Worded typeName := by
  refine worded_get.bind fun session => ?_
  split
  · exact worded_next.bind fun _ => worded_pure _
  · exact worded_refuse (by decide)

theorem worded_declaration : Worded declaration :=
  worded_opening.bind fun opening => (worded_expect _).bind fun name =>
    (worded_expect _).bind fun _ => worded_typeName.bind fun type =>
    worded_expectSemicolon.bind fun _ => (worded_declare name.value type).bind fun _ =>
    worded_close .declaration opening

theorem worded_checkFit (target value : ScalarType) : Worded (checkFit target value) := by
  unfold checkFit
  split
  · exact worded_pure _
  · exact worded_fail oneLine_empty

theorem worded_assignment : Worded assignment :=
  worded_opening.bind fun opening => (worded_expect _).bind fun name =>
    (worded_expect _).bind fun _ => (worded_lookUp name.value).bind fun target =>
    worded_expression.bind fun value => worded_expectSemicolon.bind fun _ =>
    (worded_checkFit target value).bind fun _ => worded_close .assignment opening

theorem worded_identifierStatement : Worded identifierStatement := by
  refine worded_get.bind fun session => ?_
  split
  · exact worded_declaration
  · exact worded_assignment
  · exact worded_next.bind fun _ => worded_refuse (by decide)

theorem worded_shown : Worded shown := by
  refine worded_get.bind fun session => ?_
  split
  · exact worded_next.bind fun _ => worded_pure _
  · exact worded_expression.bind fun _ => worded_pure _

theorem worded_output : Worded output :=
  worded_opening.bind fun opening => (worded_expect _).bind fun _ =>
    (worded_expect _).bind fun _ => worded_shown.bind fun _ =>
    worded_expectSemicolon.bind fun _ => worded_close .output opening

theorem worded_guarded : Worded guarded := by
  refine worded_get.bind fun session => ?_
  split
  · split
    · exact worded_forbid (by decide)
    · exact worded_identifierStatement
  · exact worded_output
  · exact worded_forbid (by decide)
  · exact worded_refuse (by decide)

theorem worded_enter (phase : Phase) : Worded (enter phase) :=
  worded_of_yields fun _ => ⟨(), _, rfl⟩

theorem worded_beginStatement : Worded beginStatement :=
  worded_of_yields fun _ => ⟨(), _, rfl⟩

theorem worded_body : Worded body :=
  (worded_enter _).bind fun _ => worded_beginStatement.bind fun _ =>
    worded_guarded.bind fun _ => (worded_enter _).bind fun _ => worded_pure _

theorem worded_conditional : Worded conditional :=
  worded_opening.bind fun opening => (worded_expect _).bind fun _ =>
    (worded_expect _).bind fun _ => worded_condition.bind fun _ =>
    (worded_expect _).bind fun _ => worded_body.bind fun _ =>
    (worded_close .conditional opening).bind fun _ => worded_pure _

theorem worded_alone {step : Step Clause} (worded : Worded step) : Worded (alone step) :=
  worded.bind fun _ => worded_pure _

theorem worded_refuseStatement : Worded refuseStatement :=
  worded_refuse (by decide)

theorem worded_follow (production : Production) : Worded (follow production) := by
  cases production with
  | statement => exact worded_refuseStatement
  | identifier => exact worded_alone worded_identifierStatement
  | declaration => exact worded_alone worded_declaration
  | assignment => exact worded_alone worded_assignment
  | output => exact worded_alone worded_output
  | conditional => exact worded_conditional
  | body => exact worded_alone worded_body

/-- Whatever a statement fails with, the words of the checker take one line. -/
theorem worded_statement : Worded statement := by
  refine worded_beginStatement.bind fun _ => worded_get.bind fun session => ?_
  split
  · exact worded_follow _
  · exact worded_refuseStatement

end Step

end HLang
