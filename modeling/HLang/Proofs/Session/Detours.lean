/-
This file compares a session with one that has made a detour: it has passed some tokens more and
knows one name more, and agrees with the first session in what is ahead. As long as no token ahead
has that name, every step does in the second session what it does in the first one. It yields the
same values and fails with the same diagnoses; only indices differ, by the length of the detour.

A clause ends with the token before the mark. In the two sessions that is the same token only if
one was passed since the detour. So `Beside` counts the tokens passed since then, and by
`parallels_opening_bind` a production that opens a clause passes one before it can close it.
-/

import HLang.Proofs.Session.Loops
import HLang.Proofs.Session.Statements

namespace HLang

/-! ### Tables with one name more -/

/-- The second table has the variables of the first one, and one more of the given name and
type. -/
structure SymbolTable.Gains (table wider : SymbolTable) (name : String) (type : ScalarType) :
    Prop where
  fresh : table.find? name = none
  find : ∀ other, wider.find? other = if other = name then some type else table.find? other
  size : wider.size = table.size + 1

namespace SymbolTable.Gains

variable {table wider : SymbolTable} {name other : String} {type : ScalarType}

theorem find_of_ne (gains : table.Gains wider name type) (apart : other ≠ name) :
    wider.find? other = table.find? other := by
  rw [gains.find, if_neg apart]

/-- What two tables make of a declaration: both refuse it in the same way, or both take it. -/
inductive Declared (name : String) (type : ScalarType) :
    Except Diagnosis SymbolTable → Except Diagnosis SymbolTable → Prop where
  | refused (diagnosis : Diagnosis) : Declared name type (.error diagnosis) (.error diagnosis)
  | taken (next nextWider : SymbolTable) (gains : next.Gains nextWider name type) :
      Declared name type (.ok next) (.ok nextWider)

/-- A declaration of another name leaves the one name more. -/
theorem declare (gains : table.Gains wider name type) (apart : other ≠ name)
    (otherType : ScalarType) (position : Position) :
    Declared name type (table.declare other otherType position)
      (wider.declare other otherType position) := by
  unfold SymbolTable.declare
  rw [gains.find_of_ne apart]
  split
  · exact .refused _
  · refine .taken _ _ ⟨?_, fun given => ?_, congrArg (· + 1) gains.size⟩
    · rw [find?_cons, if_neg apart.symm, gains.fresh]
    · rw [find?_cons, find?_cons, gains.find]
      by_cases isOther : given = other
      · rw [if_pos isOther, if_pos isOther, if_neg (isOther ▸ apart)]
      · rw [if_neg isOther, if_neg isOther]

end SymbolTable.Gains

/-! ### Sessions with a detour -/

/-- A detour: the tokens passed before it and those passed in it, the nearest first, and the
variable that it declares. -/
structure Detour where
  before : List Token
  within : List Token
  name : String
  type : ScalarType

/-- An opening, seen with the index of the session that made the detour. -/
def Detour.later (detour : Detour) (opening : Step.Opening) : Step.Opening :=
  { opening with first := opening.first + detour.within.length }

/-- The second session has made the detour, the first one has not, and both have passed the same
tokens since then, at least as many as given. No token ahead has the name of the detour. -/
structure Session.Beside (detour : Detour) (least : Nat) (session other : Session) : Prop where
  passed : ∃ since, least ≤ since.length ∧ session.stream.passed = since ++ detour.before ∧
    other.stream.passed = since ++ (detour.within ++ detour.before)
  ahead : other.stream.ahead = session.stream.ahead
  endToken : other.stream.endToken = session.stream.endToken
  productions : other.productions = session.productions
  statementStart : other.statementStart = session.statementStart
  symbols : session.symbols.Gains other.symbols detour.name detour.type
  unused : ∀ token ∈ session.stream.ahead, token.kind = .identifier → token.value ≠ detour.name

namespace Session.Beside

variable {detour : Detour} {least : Nat} {session other : Session}

theorem current (beside : session.Beside detour least other) : other.current = session.current := by
  unfold Session.current TokenStream.current
  rw [beside.ahead, beside.endToken]

theorem kindAt (beside : session.Beside detour least other) (distance : Nat) :
    other.stream.kindAt distance = session.stream.kindAt distance := by
  unfold TokenStream.kindAt
  rw [beside.ahead]

theorem index (beside : session.Beside detour least other) :
    other.stream.index = session.stream.index + detour.within.length := by
  obtain ⟨since, -, passed, otherPassed⟩ := beside.passed
  unfold TokenStream.index
  rw [passed, otherPassed, List.length_append, List.length_append, List.length_append]
  omega

/-- Once a token was passed since the detour, it is the one before the mark in both sessions. -/
theorem previous (beside : session.Beside detour (least + 1) other) :
    other.stream.previous = session.stream.previous := by
  obtain ⟨since, some, passed, otherPassed⟩ := beside.passed
  obtain ⟨token, more, rfl⟩ :=
    List.exists_cons_of_length_pos (Nat.lt_of_lt_of_le least.succ_pos some)
  unfold TokenStream.previous
  rw [passed, otherPassed]
  rfl

theorem unexpected (beside : session.Beside detour least other) (expected : String) :
    other.unexpected expected = session.unexpected expected := by
  unfold Session.unexpected Session.diagnose
  rw [beside.current, beside.statementStart]

theorem missingSemicolon (beside : session.Beside detour least other) :
    other.missingSemicolon = session.missingSemicolon := by
  unfold Session.missingSemicolon Session.diagnose
  rw [beside.current, beside.statementStart, beside.unexpected]

/-- An identifier at the mark does not have the name of the detour. -/
theorem value_ne (beside : session.Beside detour least other)
    (name : session.current.kind = .identifier) : session.current.value ≠ detour.name := by
  have notEnd : session.current.kind ≠ .endOfInput := by rw [name]; decide
  obtain ⟨rest, shape⟩ := current_isPrefix notEnd
  refine beside.unused session.current ?_ name
  rw [← shape]
  exact List.mem_cons_self

theorem weaken {fewer : Nat} (beside : session.Beside detour least other) (le : fewer ≤ least) :
    session.Beside detour fewer other := by
  obtain ⟨since, some, passed⟩ := beside.passed
  exact { beside with passed := ⟨since, Nat.le_trans le some, passed⟩ }

/-- Both sessions pass a token. -/
theorem advance_succ (beside : session.Beside detour least other)
    (notEnd : session.current.kind ≠ .endOfInput) :
    session.advance.Beside detour (least + 1) other.advance := by
  obtain ⟨since, some, passed, otherPassed⟩ := beside.passed
  obtain ⟨rest, shape⟩ := current_isPrefix notEnd
  have otherShape : [other.current] ++ rest = other.stream.ahead := by
    rw [beside.current, shape, beside.ahead]
  have moved : session.stream.advance = { session.stream with
      passed := session.current :: session.stream.passed, ahead := rest } := by
    unfold TokenStream.advance
    rw [← shape]
    rfl
  have otherMoved : other.stream.advance = { other.stream with
      passed := other.current :: other.stream.passed, ahead := rest } := by
    unfold TokenStream.advance
    rw [← otherShape]
    rfl
  refine ⟨⟨session.current :: since, Nat.succ_le_succ some, ?_, ?_⟩, ?_, ?_, beside.productions,
    beside.statementStart, beside.symbols, ?_⟩
  · show session.stream.advance.passed = _
    rw [moved, passed, List.cons_append]
  · show other.stream.advance.passed = _
    rw [otherMoved, otherPassed, beside.current, List.cons_append]
  · show other.stream.advance.ahead = session.stream.advance.ahead
    rw [moved, otherMoved]
  · show other.stream.advance.endToken = session.stream.advance.endToken
    rw [moved, otherMoved]
    exact beside.endToken
  · intro token member
    have among : token ∈ session.stream.advance.ahead := member
    rw [moved] at among
    exact beside.unused token (shape ▸ List.mem_append_right _ among)

end Session.Beside

namespace Step

open Session (Beside)

/-! ### Steps behind a detour -/

variable {Value First Second : Type} {detour : Detour} {least : Nat} {session : Session}

/-- Begun in a session that has made the detour, the other step does what the step does in the
session that has not. -/
def Parallels (detour : Detour) (least : Nat) (step other : Step Value) (session : Session) :
    Prop :=
  ∀ beside, session.Beside detour least beside →
    (other beside).1 = (step session).1 ∧ (step session).2.Beside detour least (other beside).2

theorem parallels_pure (value : Value) :
    Parallels detour least (pure value) (pure value) session :=
  fun _ beside => ⟨rfl, beside⟩

theorem parallels_throw (diagnosis : Diagnosis) :
    Parallels detour least (throw diagnosis : Step Value) (throw diagnosis) session :=
  fun _ beside => ⟨rfl, beside⟩

theorem Parallels.bind {first other : Step First} {second later : First → Step Second}
    (firstParallels : Parallels detour least first other session)
    (secondParallels : ∀ value between, Yields first session value between →
      Parallels detour least (second value) (later value) between) :
    Parallels detour least (first >>= second) (other >>= later) session := by
  intro beside isBeside
  obtain ⟨same, still⟩ := firstParallels beside isBeside
  rw [bind_run, bind_run]
  rcases run : first session with ⟨outcome, between⟩
  rcases otherRun : other beside with ⟨otherOutcome, otherBetween⟩
  rw [run, otherRun] at same still
  obtain rfl : otherOutcome = outcome := same
  cases otherOutcome with
  | error diagnosis => exact ⟨rfl, still⟩
  | ok value => exact secondParallels value between run otherBetween still

/-- A step that begins with a look at the session, if both sessions look the same to it. -/
theorem Parallels.get_bind {step : Session → Step Value}
    (parallels : Parallels detour least (step session) (step session) session)
    (looks : ∀ beside, session.Beside detour least beside → step beside = step session) :
    Parallels detour least (get >>= step) (get >>= step) session := by
  intro beside isBeside
  have given : (get >>= step) beside = step session beside := by
    rw [← looks beside isBeside]
    rfl
  rw [given]
  exact parallels beside isBeside

theorem parallels_refuse (expected : String) :
    Parallels detour least (refuse expected : Step Value) (refuse expected) session :=
  .get_bind (parallels_throw _) fun beside isBeside => by rw [isBeside.unexpected]

theorem parallels_fail (fault : Fault) :
    Parallels detour least (fail fault : Step Value) (fail fault) session :=
  .get_bind (parallels_throw _) fun beside isBeside => by
    unfold Session.diagnose
    rw [isBeside.statementStart]

/-- Passing a token, and then going on with it. -/
theorem parallels_next_bind {step : Token → Step Value}
    (notEnd : session.current.kind ≠ .endOfInput)
    (parallels : (session.current.kind = .identifier → session.current.value ≠ detour.name) →
      Parallels detour least (step session.current) (step session.current) session.advance) :
    Parallels detour least (next >>= step) (next >>= step) session := by
  intro beside isBeside
  have given : (next >>= step) beside = step session.current beside.advance := by
    rw [bind_run, next_run, isBeside.current]
  rw [given]
  exact parallels isBeside.value_ne beside.advance
    ((isBeside.advance_succ notEnd).weaken (Nat.le_succ least))

theorem parallels_next (notEnd : session.current.kind ≠ .endOfInput) :
    Parallels detour least next next session :=
  parallels_next_bind notEnd fun _ => parallels_pure session.current

theorem parallels_expectOr {kind : TokenKind} (notEnd : kind ≠ .endOfInput)
    {otherwise : Session → Diagnosis}
    (looks : ∀ beside, session.Beside detour least beside → otherwise beside = otherwise session) :
    Parallels detour least (expectOr kind otherwise) (expectOr kind otherwise) session := by
  refine .get_bind ?_ fun beside isBeside => by rw [isBeside.current, looks beside isBeside]
  split
  · rename_i found
    exact parallels_next (found ▸ notEnd)
  · exact parallels_throw _

theorem parallels_expect {kind : TokenKind} (notEnd : kind ≠ .endOfInput) :
    Parallels detour least (expect kind) (expect kind) session :=
  parallels_expectOr notEnd fun _ isBeside => isBeside.unexpected _

theorem parallels_expectSemicolon :
    Parallels detour least expectSemicolon expectSemicolon session :=
  parallels_expectOr (by decide) fun _ isBeside => isBeside.missingSemicolon

/-- Passing an identifier, which does not have the name of the detour. -/
theorem parallels_expect_identifier_bind {step : Token → Step Value}
    (parallels : ∀ token between, token.value ≠ detour.name →
      Parallels detour least (step token) (step token) between) :
    Parallels detour least (expect .identifier >>= step) (expect .identifier >>= step)
      session := by
  intro beside isBeside
  refine (parallels_expect (by decide)).bind (fun token between passed => ?_) beside isBeside
  obtain ⟨name, front, -⟩ := (yields_expectOr_iff (by decide)).mp passed
  exact parallels token between (isBeside.unused token (front.subset List.mem_cons_self) name)

theorem parallels_lookUp {name : String} (apart : name ≠ detour.name) :
    Parallels detour least (lookUp name) (lookUp name) session := by
  refine .get_bind ?_ fun beside isBeside => by rw [isBeside.symbols.find_of_ne apart]
  cases session.symbols.find? name with
  | some type => exact parallels_pure type
  | none => exact parallels_fail _

theorem parallels_declare {name : String} (apart : name ≠ detour.name) (type : ScalarType) :
    Parallels detour least (declare name type) (declare name type) session := by
  intro beside isBeside
  have declared := isBeside.symbols.declare apart type session.statementStart
  rw [declare_run, declare_run, isBeside.statementStart]
  generalize session.symbols.declare name type session.statementStart = outcome at declared ⊢
  generalize beside.symbols.declare name type session.statementStart = other at declared ⊢
  cases declared with
  | refused diagnosis => exact ⟨rfl, isBeside⟩
  | taken next nextWider gains =>
    exact ⟨rfl, { isBeside with symbols := gains, statementStart := rfl }⟩

theorem parallels_beginStatement :
    Parallels detour least beginStatement beginStatement session := by
  intro beside isBeside
  have starts : beside.current.span.start = session.current.span.start := by
    rw [isBeside.current]
  exact ⟨rfl, { isBeside with statementStart := starts }⟩

theorem parallels_enter (phase : Phase) :
    Parallels detour least (enter phase) (enter phase) session :=
  fun _ isBeside => ⟨rfl, { isBeside with }⟩

/-- Opening a clause, and passing its first token. -/
theorem parallels_opening_bind {kind : TokenKind}
    {step : Opening → Token → Step Value} (notEnd : kind ≠ .endOfInput)
    (parallels : ∀ opening token between, (kind = .identifier → token.value ≠ detour.name) →
      Parallels detour (least + 1) (step opening token) (step (detour.later opening) token)
        between) :
    Parallels detour least (opening >>= fun opening => expect kind >>= step opening)
      (opening >>= fun opening => expect kind >>= step opening) session := by
  intro beside isBeside
  have opened (given : Session) :
      (opening >>= fun opening => expect kind >>= step opening) given =
        (expect kind >>= step ⟨given.current.span.start, given.stream.index⟩) given := rfl
  have expected (given : Session) : expect kind given =
      if given.current.kind = kind then (.ok given.current, given.advance)
      else (.error (given.unexpected kind.describe), given) := expectOr_run kind _ given
  rw [opened, opened, bind_run, bind_run, expected, expected, isBeside.current, isBeside.index]
  by_cases found : session.current.kind = kind
  · rw [if_pos found, if_pos found]
    have started := parallels ⟨session.current.span.start, session.stream.index⟩ session.current
      session.advance fun name => isBeside.value_ne (found.trans name)
    obtain ⟨outcome, still⟩ :=
      started beside.advance (isBeside.advance_succ (found ▸ notEnd))
    exact ⟨outcome, still.weaken (Nat.le_succ least)⟩
  · rw [if_neg found, if_neg found]
    exact ⟨congrArg Except.error (isBeside.unexpected _), isBeside⟩

theorem parallels_close (kind : StatementKind) (opening : Opening) :
    Parallels detour (least + 1) (close kind opening) (close kind (detour.later opening))
      session := by
  intro beside isBeside
  refine ⟨congrArg Except.ok ?_, isBeside⟩
  show beside.clause kind (opening.first + detour.within.length) opening.start =
    session.clause kind opening.first opening.start
  unfold Session.clause
  rw [isBeside.previous, isBeside.index, Nat.add_sub_add_right]

/-! ### Expressions -/

theorem parallels_literal : Parallels detour least literal literal session := by
  refine .get_bind ?_ fun beside isBeside => by rw [isBeside.current]
  split
  · rename_i kind
    exact parallels_next_bind (by simp [kind]) fun _ => parallels_pure ScalarType.integer
  · rename_i kind
    exact parallels_next_bind (by simp [kind]) fun _ => parallels_pure ScalarType.double
  · exact parallels_refuse _

theorem parallels_operand : Parallels detour least operand operand session := by
  refine .get_bind ?_ fun beside isBeside => by rw [isBeside.current]
  split
  · rename_i kind
    exact parallels_next_bind (by simp [kind]) fun apart => parallels_lookUp (apart kind)
  · exact parallels_literal
  · exact parallels_literal
  · rename_i kind
    exact parallels_next_bind (by simp [kind]) fun _ => parallels_literal
  · exact parallels_fail _
  · exact parallels_refuse _

theorem parallels_sumFrom (left : ScalarType) (session : Session) :
    Parallels detour least (sumFrom left) (sumFrom left) session := by
  induction left, session using sumFrom_induction with
  | round left session later =>
    rw [sumFrom_eq]
    refine .get_bind ?_ fun beside isBeside => by rw [isBeside.current]
    split
    · rename_i sign
      have notEnd : session.current.kind ≠ .endOfInput := by
        rcases sign with kind | kind <;> simp [kind]
      exact parallels_next_bind notEnd fun _ => parallels_operand.bind (later sign)
    · exact parallels_pure left

theorem parallels_expression : Parallels detour least expression expression session :=
  parallels_operand.bind fun left between _ => parallels_sumFrom left between

theorem parallels_relation : Parallels detour least relation relation session := by
  refine .get_bind ?_ fun beside isBeside => by rw [isBeside.current]
  split
  · rename_i relational
    refine parallels_next fun ended => ?_
    rw [ended] at relational
    cases relational
  · exact parallels_refuse _

theorem parallels_condition : Parallels detour least condition condition session :=
  parallels_expect_identifier_bind fun _ _ apart => (parallels_lookUp apart).bind fun _ _ _ =>
    parallels_relation.bind fun _ _ _ => parallels_operand.bind fun _ _ _ => parallels_pure ()

/-! ### Statements -/

theorem parallels_typeName : Parallels detour least typeName typeName session := by
  refine .get_bind ?_ fun beside isBeside => by rw [isBeside.current]
  split
  · rename_i type named
    refine parallels_next_bind (fun ended => ?_) fun _ => parallels_pure type
    rw [ended] at named
    cases named
  · exact parallels_refuse _

theorem parallels_declaration : Parallels detour least declaration declaration session :=
  parallels_opening_bind (by decide) fun opening _ _ apart =>
    (parallels_expect (by decide)).bind fun _ _ _ => parallels_typeName.bind fun type _ _ =>
    parallels_expectSemicolon.bind fun _ _ _ =>
    (parallels_declare (apart rfl) type).bind fun _ _ _ => parallels_close .declaration opening

theorem parallels_checkFit (target value : ScalarType) :
    Parallels detour least (checkFit target value) (checkFit target value) session := by
  unfold checkFit
  split
  · exact parallels_pure ()
  · exact parallels_fail _

theorem parallels_assignment : Parallels detour least assignment assignment session :=
  parallels_opening_bind (by decide) fun opening _ _ apart =>
    (parallels_expect (by decide)).bind fun _ _ _ =>
    (parallels_lookUp (apart rfl)).bind fun target _ _ =>
    parallels_expression.bind fun value _ _ => parallels_expectSemicolon.bind fun _ _ _ =>
    (parallels_checkFit target value).bind fun _ _ _ => parallels_close .assignment opening

theorem parallels_identifierStatement (notEnd : session.current.kind ≠ .endOfInput) :
    Parallels detour least identifierStatement identifierStatement session := by
  refine .get_bind ?_ fun beside isBeside => by rw [isBeside.kindAt]
  split
  · exact parallels_declaration
  · exact parallels_assignment
  · exact parallels_next_bind notEnd fun _ => parallels_refuse _

theorem parallels_shown : Parallels detour least shown shown session := by
  refine .get_bind ?_ fun beside isBeside => by rw [isBeside.current]
  split
  · rename_i kind
    exact parallels_next_bind (by simp [kind]) fun _ => parallels_pure ()
  · exact parallels_expression.bind fun _ _ _ => parallels_pure ()

theorem parallels_output : Parallels detour least output output session :=
  parallels_opening_bind (by decide) fun opening _ _ _ =>
    (parallels_expect (by decide)).bind fun _ _ _ => parallels_shown.bind fun _ _ _ =>
    parallels_expectSemicolon.bind fun _ _ _ => parallels_close .output opening

theorem parallels_guarded : Parallels detour least guarded guarded session := by
  refine .get_bind ?_ fun beside isBeside => by rw [isBeside.current, isBeside.kindAt]
  split
  · rename_i name
    split
    · exact parallels_fail _
    · exact parallels_identifierStatement (by simp [name])
  · exact parallels_output
  · exact parallels_fail _
  · exact parallels_refuse _

theorem parallels_body : Parallels detour least body body session :=
  (parallels_enter _).bind fun _ _ _ => parallels_beginStatement.bind fun _ _ _ =>
    parallels_guarded.bind fun clause _ _ => (parallels_enter _).bind fun _ _ _ =>
    parallels_pure clause

theorem parallels_conditional : Parallels detour least conditional conditional session :=
  parallels_opening_bind (by decide) fun opening _ _ _ =>
    (parallels_expect (by decide)).bind fun _ _ _ => parallels_condition.bind fun _ _ _ =>
    (parallels_expect (by decide)).bind fun _ _ _ => parallels_body.bind fun inner _ _ =>
    (parallels_close .conditional opening).bind fun outer _ _ =>
    parallels_pure (⟨outer, some inner⟩ : Statement)

theorem parallels_alone {step : Step Clause}
    (parallels : Parallels detour least step step session) :
    Parallels detour least (alone step) (alone step) session :=
  parallels.bind fun clause _ _ => parallels_pure clause.alone

theorem parallels_statement (registered : session.productions = grammarProductions) :
    Parallels detour least statement statement session := by
  refine parallels_beginStatement.bind fun _ between begun => ?_
  obtain ⟨-, rfl⟩ := ok_eq_ok_iff.mp begun
  refine .get_bind ?_ fun beside isBeside => by rw [isBeside.current, isBeside.productions]
  rw [show session.beginStatement.productions = _ from registered]
  split
  · rename_i production chosen
    rcases grammarProductions_cases chosen with ⟨name, rfl⟩ | ⟨-, rfl⟩ | ⟨-, rfl⟩
    · exact parallels_alone (parallels_identifierStatement (by simp [name]))
    · exact parallels_alone parallels_output
    · exact parallels_conditional
  · exact parallels_refuse _

/-! ### Runs -/

theorem parallels_statements (registered : session.productions = grammarProductions) :
    Parallels detour least Session.statements Session.statements session := by
  induction session using statements_induction with
  | round session later =>
    rw [statements_eq]
    refine .get_bind ?_ fun beside isBeside => ?_
    · split
      · refine (parallels_statement registered).bind fun first between yields => ?_
        have rest := later first between yields
        obtain ⟨form, -, -, -, rfl⟩ := exists_form_of_yields registered yields
        exact (rest registered).bind fun more _ _ => parallels_pure (first :: more)
      · exact parallels_pure []
    · unfold Session.hasTokens
      rw [isBeside.current]

end Step

end HLang
