/-
This file says how far a step looks ahead. The horizon of a session is the last token that was
needed to come to it: the token behind the current one, or the current one if it ends the input.
Sessions that are alike up to a limit differ in nothing but the tokens beyond it.

What a step does depends on no token beyond the horizon of the session in which it ends. So a step
that begins in sessions alike up to that horizon ends the same way, in sessions alike up to it. The
property passes from the parts of a step to the whole, because no step moves the horizon back.
-/

import HLang.Proofs.Session.Loops
import HLang.Proofs.Session.Statements

namespace HLang

/-! ### Sessions that look alike -/

namespace Session

/-- The index of the last token that is in sight: the current token, and the one behind it unless
the current one ends the input. -/
def horizon (session : Session) : Nat :=
  if session.current.kind = .endOfInput then session.stream.index else session.stream.index + 1

/-- The sessions differ at most in the tokens behind the one at index `limit`. -/
structure Alike (limit : Nat) (session other : Session) : Prop where
  passed : other.stream.passed = session.stream.passed
  tokens : ∀ index ≤ limit, other.stream.toList[index]? = session.stream.toList[index]?
  productions : other.productions = session.productions
  symbols : other.symbols = session.symbols
  phase : other.phase = session.phase
  statementStart : other.statementStart = session.statementStart

variable {session other : Session} {limit : Nat}

theorem index_le_horizon (session : Session) : session.stream.index ≤ session.horizon := by
  unfold horizon
  split <;> omega

theorem passed_advance (notEnd : session.current.kind ≠ .endOfInput) :
    session.advance.stream.passed = session.current :: session.stream.passed := by
  obtain ⟨rest, shape⟩ := current_isPrefix notEnd
  unfold advance TokenStream.advance
  rw [← shape]
  rfl

theorem horizon_le_advance (notEnd : session.current.kind ≠ .endOfInput) :
    session.horizon ≤ session.advance.horizon := by
  have moved : session.advance.stream.index = session.stream.index + 1 :=
    congrArg List.length (passed_advance notEnd)
  rw [horizon, if_neg notEnd, ← moved]
  exact index_le_horizon _

namespace Alike

theorem index (alike : Alike limit session other) :
    other.stream.index = session.stream.index :=
  congrArg List.length alike.passed

/-- Sessions that are alike up to the horizon have the same current token. -/
theorem current (alike : Alike limit session other) (within : session.horizon ≤ limit) :
    other.current = session.current := by
  have same := alike.tokens session.stream.index
    (Nat.le_trans session.index_le_horizon within)
  rw [TokenStream.getElem?_index, ← alike.index, TokenStream.getElem?_index] at same
  exact Option.some.inj same

/-- Sessions that are alike up to the horizon see the same token behind the current one. -/
theorem kindAt_one (alike : Alike limit session other) (within : session.horizon ≤ limit)
    (notEnd : session.current.kind ≠ .endOfInput) :
    other.stream.kindAt 1 = session.stream.kindAt 1 := by
  rw [horizon, if_neg notEnd] at within
  rw [TokenStream.kindAt_eq, TokenStream.kindAt_eq, alike.index, alike.tokens _ within]

theorem previous (alike : Alike limit session other) (within : session.horizon ≤ limit) :
    other.stream.previous = session.stream.previous := by
  unfold TokenStream.previous
  rw [alike.passed, show other.stream.current = _ from alike.current within]
  rfl

theorem unexpected (alike : Alike limit session other) (within : session.horizon ≤ limit)
    (expected : String) : other.unexpected expected = session.unexpected expected := by
  simp only [Session.unexpected, Session.diagnose, alike.current within, alike.statementStart]

theorem advance (alike : Alike limit session other) (within : session.horizon ≤ limit)
    (notEnd : session.current.kind ≠ .endOfInput) :
    Alike limit session.advance other.advance := by
  have current := alike.current within
  refine ⟨?_, fun index reached => ?_, alike.productions, alike.symbols, alike.phase,
    alike.statementStart⟩
  · rw [passed_advance notEnd, passed_advance (current ▸ notEnd), current, alike.passed]
  · show other.stream.advance.toList[index]? = session.stream.advance.toList[index]?
    rw [TokenStream.toList_advance, TokenStream.toList_advance]
    exact alike.tokens index reached

end Alike

end Session

/-! ### Steps that do not look beyond the horizon -/

namespace Step

open Session (Alike)

variable {Value First Second : Type} {session : Session}

/-- Begun in the session, the step depends on no token beyond the horizon of the session in which
it ends, and that horizon does not lie before the one where it began. -/
structure Nearsighted (step : Step Value) (session : Session) : Prop where
  further : session.horizon ≤ (step session).2.horizon
  same : ∀ limit other, (step session).2.horizon ≤ limit → Alike limit session other →
    (step other).1 = (step session).1 ∧ Alike limit (step session).2 (step other).2

theorem nearsighted_pure (value : Value) : Nearsighted (pure value : Step Value) session :=
  ⟨Nat.le_refl _, fun _ _ _ alike => ⟨rfl, alike⟩⟩

theorem nearsighted_throw (diagnosis : Diagnosis) :
    Nearsighted (throw diagnosis : Step Value) session :=
  ⟨Nat.le_refl _, fun _ _ _ alike => ⟨rfl, alike⟩⟩

/-- A step after a step: the second one begins in alike sessions because the first one ended in
such. -/
theorem Nearsighted.bind {first : Step First} {second : First → Step Second}
    (firstNear : Nearsighted first session)
    (secondNear : ∀ value between, Yields first session value between →
      Nearsighted (second value) between) : Nearsighted (first >>= second) session := by
  obtain ⟨further, same⟩ := firstNear
  rcases run : first session with ⟨diagnosis | value, between⟩
  · rw [run] at further same
    have whole : (first >>= second) session = (.error diagnosis, between) := by
      rw [bind_run, run]
    constructor
    · rw [whole]
      exact further
    · rw [whole]
      intro limit other within alike
      obtain ⟨outcome, still⟩ := same limit other within alike
      rw [bind_run]
      rcases otherRun : first other with ⟨otherDiagnosis | otherValue, otherBetween⟩
      · rw [otherRun] at outcome still
        exact ⟨congrArg Except.error (Except.error.inj outcome), still⟩
      · rw [otherRun] at outcome
        exact nomatch outcome
  · rw [run] at further same
    have later := secondNear value between run
    have whole : (first >>= second) session = second value between := by
      rw [bind_run, run]
    constructor
    · rw [whole]
      exact Nat.le_trans further later.further
    · rw [whole]
      intro limit other within alike
      obtain ⟨outcome, still⟩ :=
        same limit other (Nat.le_trans later.further within) alike
      rw [bind_run]
      rcases otherRun : first other with ⟨otherDiagnosis | otherValue, otherBetween⟩
      · rw [otherRun] at outcome
        exact nomatch outcome
      · rw [otherRun] at outcome still
        obtain rfl := Except.ok.inj outcome
        exact later.same limit otherBetween within still

/-- A step that begins with a look at the session, if alike sessions look the same to it. -/
theorem Nearsighted.get_bind {step : Session → Step Value}
    (near : Nearsighted (step session) session)
    (looks : ∀ limit other, session.horizon ≤ limit → Alike limit session other →
      step other = step session) : Nearsighted (get >>= step) session := by
  refine ⟨near.further, fun limit other within alike => ?_⟩
  have given : (get >>= step) other = step session other := by
    rw [← looks limit other (Nat.le_trans near.further within) alike]
    rfl
  rw [given]
  exact near.same limit other within alike

theorem nearsighted_refuse (expected : String) :
    Nearsighted (refuse expected : Step Value) session := by
  refine .get_bind (nearsighted_throw _) fun limit other within alike => ?_
  simp only [alike.unexpected within]

theorem nearsighted_fail (fault : Fault) : Nearsighted (fail fault : Step Value) session := by
  refine .get_bind (nearsighted_throw _) fun limit other within alike => ?_
  simp only [Session.diagnose, alike.statementStart]

theorem nearsighted_next (notEnd : session.current.kind ≠ .endOfInput) :
    Nearsighted next session := by
  refine ⟨Session.horizon_le_advance notEnd, fun limit other within alike => ?_⟩
  have inside := Nat.le_trans (Session.horizon_le_advance notEnd) within
  exact ⟨congrArg Except.ok (alike.current inside), alike.advance inside notEnd⟩

/-- Passing a token first, which is none that ends the input. -/
theorem nearsighted_next_bind {step : Token → Step Value}
    (notEnd : session.current.kind ≠ .endOfInput)
    (near : Nearsighted (step session.current) session.advance) :
    Nearsighted (next >>= step) session := by
  refine (nearsighted_next notEnd).bind fun token between passed => ?_
  obtain ⟨rfl, rfl⟩ := ok_eq_ok_iff.mp passed
  exact near

theorem nearsighted_expectOr {kind : TokenKind} (notEnd : kind ≠ .endOfInput)
    {otherwise : Session → Diagnosis}
    (looks : ∀ limit other, session.horizon ≤ limit → Alike limit session other →
      otherwise other = otherwise session) : Nearsighted (expectOr kind otherwise) session := by
  refine .get_bind ?_ fun limit other within alike => ?_
  · split
    · rename_i found
      exact nearsighted_next (by rw [found]; exact notEnd)
    · exact nearsighted_throw _
  · simp only [alike.current within, looks limit other within alike]

theorem nearsighted_expect {kind : TokenKind} (notEnd : kind ≠ .endOfInput) :
    Nearsighted (expect kind) session :=
  nearsighted_expectOr notEnd fun _ _ within alike => alike.unexpected within _

theorem nearsighted_expectSemicolon : Nearsighted expectSemicolon session := by
  refine nearsighted_expectOr (by decide) fun limit other within alike => ?_
  simp only [Session.missingSemicolon, Session.diagnose, alike.current within,
    alike.statementStart, alike.unexpected within]

theorem nearsighted_lookUp (name : String) : Nearsighted (lookUp name) session := by
  refine .get_bind ?_ fun limit other within alike => ?_
  · split
    · exact nearsighted_pure _
    · exact nearsighted_fail _
  · simp only [alike.symbols]

theorem nearsighted_declare (name : String) (type : ScalarType) :
    Nearsighted (declare name type) session := by
  have run (given : Session) := declare_run name type given
  constructor
  · rw [run]
    split <;> exact Nat.le_refl _
  · intro limit other within alike
    rw [run, run, alike.symbols, alike.statementStart]
    cases session.symbols.declare name type session.statementStart with
    | ok symbols =>
      exact ⟨rfl, alike.passed, alike.tokens, alike.productions, rfl, alike.phase, rfl⟩
    | error diagnosis => exact ⟨rfl, alike⟩

theorem nearsighted_beginStatement : Nearsighted beginStatement session := by
  refine ⟨Nat.le_refl _, fun limit other within alike => ⟨rfl, alike.passed, alike.tokens,
    alike.productions, alike.symbols, alike.phase, ?_⟩⟩
  exact congrArg (fun token : Token => token.span.start) (alike.current within)

theorem nearsighted_enter (phase : Phase) : Nearsighted (enter phase) session :=
  ⟨Nat.le_refl _, fun _ _ _ alike => ⟨rfl, alike.passed, alike.tokens, alike.productions,
    alike.symbols, rfl, alike.statementStart⟩⟩

theorem nearsighted_opening : Nearsighted opening session := by
  refine .get_bind (nearsighted_pure _) fun limit other within alike => ?_
  simp only [alike.current within, alike.index]

theorem nearsighted_close (kind : StatementKind) (opening : Opening) :
    Nearsighted (close kind opening) session := by
  refine .get_bind (nearsighted_pure _) fun limit other within alike => ?_
  simp only [Session.clause, alike.previous within, alike.index]

/-! ### Expressions -/

theorem nearsighted_literal : Nearsighted literal session := by
  refine .get_bind ?_ fun limit other within alike => ?_
  · split
    · rename_i kind
      exact nearsighted_next_bind (by simp [kind]) (nearsighted_pure _)
    · rename_i kind
      exact nearsighted_next_bind (by simp [kind]) (nearsighted_pure _)
    · exact nearsighted_refuse _
  · simp only [alike.current within]

theorem nearsighted_operand : Nearsighted operand session := by
  refine .get_bind ?_ fun limit other within alike => ?_
  · split
    · rename_i kind
      exact nearsighted_next_bind (by simp [kind]) (nearsighted_lookUp _)
    · exact nearsighted_literal
    · exact nearsighted_literal
    · rename_i kind
      exact nearsighted_next_bind (by simp [kind]) nearsighted_literal
    · exact nearsighted_fail _
    · exact nearsighted_refuse _
  · simp only [alike.current within]

theorem nearsighted_sumFrom (left : ScalarType) (session : Session) :
    Nearsighted (sumFrom left) session := by
  induction left, session using sumFrom_induction with
  | round left session later =>
    rw [sumFrom_eq]
    refine .get_bind ?_ fun limit other within alike => by simp only [alike.current within]
    split
    · rename_i sign
      have notEnd : session.current.kind ≠ .endOfInput := by
        rcases sign with kind | kind <;> simp [kind]
      exact nearsighted_next_bind notEnd (nearsighted_operand.bind (later sign))
    · exact nearsighted_pure left

theorem nearsighted_expression : Nearsighted expression session :=
  nearsighted_operand.bind fun left between _ => nearsighted_sumFrom left between

theorem nearsighted_relation : Nearsighted relation session := by
  refine .get_bind ?_ fun limit other within alike => by simp only [alike.current within]
  split
  · rename_i relational
    refine nearsighted_next fun ended => ?_
    rw [ended] at relational
    cases relational
  · exact nearsighted_refuse _

theorem nearsighted_condition : Nearsighted condition session :=
  (nearsighted_expect (by decide)).bind fun subject _ _ =>
    (nearsighted_lookUp subject.value).bind fun _ _ _ =>
    nearsighted_relation.bind fun _ _ _ => nearsighted_operand.bind fun _ _ _ =>
    nearsighted_pure _

/-! ### Statements -/

theorem nearsighted_typeName : Nearsighted typeName session := by
  refine .get_bind ?_ fun limit other within alike => by simp only [alike.current within]
  split
  · rename_i type named
    refine nearsighted_next_bind (fun ended => ?_) (nearsighted_pure _)
    rw [ended] at named
    cases named
  · exact nearsighted_refuse _

theorem nearsighted_declaration : Nearsighted declaration session :=
  nearsighted_opening.bind fun opening _ _ => (nearsighted_expect (by decide)).bind fun name _ _ =>
    (nearsighted_expect (by decide)).bind fun _ _ _ => nearsighted_typeName.bind fun type _ _ =>
    nearsighted_expectSemicolon.bind fun _ _ _ => (nearsighted_declare name.value type).bind
    fun _ _ _ => nearsighted_close .declaration opening

theorem nearsighted_checkFit (target value : ScalarType) :
    Nearsighted (checkFit target value) session := by
  unfold checkFit
  split
  · exact nearsighted_pure _
  · exact nearsighted_fail _

theorem nearsighted_assignment : Nearsighted assignment session :=
  nearsighted_opening.bind fun opening _ _ => (nearsighted_expect (by decide)).bind fun name _ _ =>
    (nearsighted_expect (by decide)).bind fun _ _ _ =>
    (nearsighted_lookUp name.value).bind fun target _ _ =>
    nearsighted_expression.bind fun value _ _ => nearsighted_expectSemicolon.bind fun _ _ _ =>
    (nearsighted_checkFit target value).bind fun _ _ _ => nearsighted_close .assignment opening

/-- The token behind the current one is in sight, because the current one is an identifier. -/
theorem nearsighted_identifierStatement (notEnd : session.current.kind ≠ .endOfInput) :
    Nearsighted identifierStatement session := by
  refine .get_bind ?_ fun limit other within alike => by
    simp only [alike.kindAt_one within notEnd]
  split
  · exact nearsighted_declaration
  · exact nearsighted_assignment
  · exact nearsighted_next_bind notEnd (nearsighted_refuse _)

theorem nearsighted_shown : Nearsighted shown session := by
  refine .get_bind ?_ fun limit other within alike => by simp only [alike.current within]
  split
  · rename_i kind
    exact nearsighted_next_bind (by simp [kind]) (nearsighted_pure _)
  · exact nearsighted_expression.bind fun _ _ _ => nearsighted_pure _

theorem nearsighted_output : Nearsighted output session :=
  nearsighted_opening.bind fun opening _ _ => (nearsighted_expect (by decide)).bind fun _ _ _ =>
    (nearsighted_expect (by decide)).bind fun _ _ _ => nearsighted_shown.bind fun _ _ _ =>
    nearsighted_expectSemicolon.bind fun _ _ _ => nearsighted_close .output opening

theorem nearsighted_guarded : Nearsighted guarded session := by
  refine .get_bind ?_ fun limit other within alike => ?_
  · split
    · rename_i name
      split
      · exact nearsighted_fail _
      · exact nearsighted_identifierStatement (by simp [name])
    · exact nearsighted_output
    · exact nearsighted_fail _
    · exact nearsighted_refuse _
  · simp only [alike.current within]
    split
    · rename_i name
      rw [alike.kindAt_one within (by simp [name])]
    · rfl
    · rfl
    · rfl

theorem nearsighted_body : Nearsighted body session :=
  (nearsighted_enter _).bind fun _ _ _ => nearsighted_beginStatement.bind fun _ _ _ =>
    nearsighted_guarded.bind fun _ _ _ => (nearsighted_enter _).bind fun _ _ _ =>
    nearsighted_pure _

theorem nearsighted_conditional : Nearsighted conditional session :=
  nearsighted_opening.bind fun opening _ _ => (nearsighted_expect (by decide)).bind fun _ _ _ =>
    (nearsighted_expect (by decide)).bind fun _ _ _ => nearsighted_condition.bind fun _ _ _ =>
    (nearsighted_expect (by decide)).bind fun _ _ _ => nearsighted_body.bind fun _ _ _ =>
    (nearsighted_close .conditional opening).bind fun _ _ _ => nearsighted_pure _

theorem nearsighted_alone {step : Step Clause} (near : Nearsighted step session) :
    Nearsighted (alone step) session :=
  near.bind fun _ _ _ => nearsighted_pure _

theorem nearsighted_statement (registered : session.productions = grammarProductions) :
    Nearsighted statement session := by
  refine nearsighted_beginStatement.bind fun value between begun => ?_
  obtain ⟨-, rfl⟩ := ok_eq_ok_iff.mp begun
  refine .get_bind ?_ fun limit other within alike => by
    simp only [alike.productions, alike.current within]
  rw [show session.beginStatement.productions = _ from registered]
  split
  · rename_i production chosen
    rcases grammarProductions_cases chosen with ⟨name, rfl⟩ | ⟨-, rfl⟩ | ⟨-, rfl⟩
    · exact nearsighted_alone (nearsighted_identifierStatement (by simp [name]))
    · exact nearsighted_alone nearsighted_output
    · exact nearsighted_conditional
  · exact nearsighted_refuse _

/-! ### Runs -/

/-- A whole run depends on no token beyond the horizon of the session in which it ends. -/
theorem nearsighted_statements (registered : session.productions = grammarProductions) :
    Nearsighted Session.statements session := by
  induction session using statements_induction with
  | round session later =>
    rw [statements_eq]
    refine .get_bind ?_ fun limit other within alike => ?_
    · split
      · refine (nearsighted_statement registered).bind fun first between yields => ?_
        have rest := later first between yields
        obtain ⟨form, -, -, -, rfl⟩ := exists_form_of_yields registered yields
        exact (rest registered).bind fun _ _ _ => nearsighted_pure _
      · exact nearsighted_pure _
    · have same : other.hasTokens = session.hasTokens := by
        unfold Session.hasTokens
        rw [alike.current within]
      simp only [same]

end Step

end HLang
