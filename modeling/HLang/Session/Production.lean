/-
This file checks statements. There is a production for each form of statement, and three that
choose: the first token of a statement chooses among the registered productions, an
identifier among declaration and assignment, and a conditional guards an assignment or an
output and nothing else. Faults are reported at the start of the statement, and within a
conditional, once its header is complete, at the start of the guarded one.

A production that succeeds has passed at least one token, by `consumes_statement`.
-/

import HLang.Session.Expression

namespace HLang.Step

/-! ### Opening and closing a statement -/

/-- Where a statement was opened: the place of its first token and the index of that token. -/
structure Opening where
  start : Position
  first : Nat
deriving DecidableEq

/-- Opens a statement at the current token. -/
def opening : Step Opening := do
  let session ← get
  return ⟨session.current.span.start, session.stream.index⟩

/-- Closes a statement before the current token. -/
def close (kind : StatementKind) (opening : Opening) : Step Clause := do
  let session ← get
  return session.clause kind opening.first opening.start

theorem forward_opening : Forward opening :=
  fun session => Nat.le_refl session.remaining

theorem forward_close (kind : StatementKind) (opening : Opening) :
    Forward (close kind opening) :=
  fun session => Nat.le_refl session.remaining

/-! ### Declarations and assignments -/

/-- The reserved word that names a type. -/
def typeName : Step ScalarType := do
  let session ← get
  match ScalarType.ofKind? session.current.kind with
  | some type => do
    let _ ← next
    return type
  | none => refuse "a type (`integer` or `double`)"

/-- An identifier, a colon, a type and a semicolon. The variable is declared only when the
whole statement was passed. -/
def declaration : Step Clause := do
  let opening ← opening
  let name ← expect .identifier
  let _ ← expect .colon
  let type ← typeName
  let _ ← expectSemicolon
  declare name.value type
  close .declaration opening

/-- Checks that a value fits the variable it is assigned to. -/
def checkFit (target value : ScalarType) : Step Unit :=
  if target.accepts value then pure ()
  else fail (.typeMismatch target.name value.name)

/-- An identifier, the assignment sign, an expression and a semicolon. The variable has to be
declared, whatever follows it; whether the value fits is checked last. -/
def assignment : Step Clause := do
  let opening ← opening
  let name ← expect .identifier
  let _ ← expect .colonEquals
  let target ← lookUp name.value
  let value ← expression
  let _ ← expectSemicolon
  checkFit target value
  close .assignment opening

/-- A declaration or an assignment, as the token after the identifier says. -/
def identifierStatement : Step Clause := do
  let session ← get
  match session.stream.kindAt 1 with
  | .colon => declaration
  | .colonEquals => assignment
  | _ => do
    let _ ← next
    refuse "`:` or `:=` after the identifier"

theorem forward_typeName : Forward typeName := by
  refine forward_get.bind fun session => ?_
  split
  · exact forward_next.bind fun _ => Forward.pure _
  · exact forward_refuse _

theorem forward_checkFit (target value : ScalarType) : Forward (checkFit target value) := by
  unfold checkFit
  split
  · exact Forward.pure _
  · exact forward_fail _

theorem consumes_declaration : Consumes declaration :=
  .bind_right forward_opening fun opening => .bind (consumes_expect (by decide)) fun name =>
    (forward_expect _).bind fun _ => forward_typeName.bind fun type =>
    forward_expectSemicolon.bind fun _ => (forward_declare name.value type).bind fun _ =>
    forward_close .declaration opening

theorem consumes_assignment : Consumes assignment :=
  .bind_right forward_opening fun opening => .bind (consumes_expect (by decide)) fun name =>
    (forward_expect _).bind fun _ => (forward_lookUp name.value).bind fun target =>
    forward_expression.bind fun value => forward_expectSemicolon.bind fun _ =>
    (forward_checkFit target value).bind fun _ => forward_close .assignment opening

theorem consumes_identifierStatement : Consumes identifierStatement := by
  refine .bind_right forward_get fun session => ?_
  split
  · exact consumes_declaration
  · exact consumes_assignment
  · exact .bind_right forward_next fun _ => consumes_refuse _

/-! ### Outputs and conditionals -/

/-- What an output shows: a string literal by itself, or an expression. -/
def shown : Step Unit := do
  let session ← get
  if session.current.kind = .stringLiteral then do
    let _ ← next
    return ()
  else do
    let _ ← expression
    return ()

/-- The word `output`, the output sign, what is shown and a semicolon. -/
def output : Step Clause := do
  let opening ← opening
  let _ ← expect .outputWord
  let _ ← expect .lessLess
  shown
  let _ ← expectSemicolon
  close .output opening

/-- Chooses the statement that a conditional guards by its first token: an assignment or an
output. Declarations and further conditionals are refused by name. -/
def guarded : Step Clause := do
  let session ← get
  match session.current.kind with
  | .identifier =>
    if session.stream.kindAt 1 = .colon then
      fail (.unexpectedTokenDetailed session.current.value
        "declarations are not allowed in an If body")
    else identifierStatement
  | .outputWord => output
  | .ifWord =>
    fail (.unexpectedTokenDetailed session.current.value
      "nested If statements are not supported")
  | _ => refuse "an assignment or output statement after the If condition"

/-- The statement that a conditional guards. The session is in the phase of conditional
bodies while it is checked, and stays there if the check fails. -/
def body : Step Clause := do
  enter .inConditionalBody
  beginStatement
  let clause ← guarded
  enter .scanning
  return clause

/-- The word `If`, a condition between parentheses, and the statement that it guards. -/
def conditional : Step Statement := do
  let opening ← opening
  let _ ← expect .ifWord
  let _ ← expect .openParen
  condition
  let _ ← expect .closeParen
  let inner ← body
  let outer ← close .conditional opening
  return ⟨outer, some inner⟩

theorem forward_shown : Forward shown := by
  refine forward_get.bind fun session => ?_
  split
  · exact forward_next.bind fun _ => Forward.pure _
  · exact forward_expression.bind fun _ => Forward.pure _

theorem consumes_output : Consumes output :=
  .bind_right forward_opening fun opening => .bind (consumes_expect (by decide)) fun _ =>
    (forward_expect _).bind fun _ => forward_shown.bind fun _ =>
    forward_expectSemicolon.bind fun _ => forward_close .output opening

theorem consumes_guarded : Consumes guarded := by
  refine .bind_right forward_get fun session => ?_
  split
  · split
    · exact consumes_fail _
    · exact consumes_identifierStatement
  · exact consumes_output
  · exact consumes_fail _
  · exact consumes_refuse _

theorem consumes_body : Consumes body :=
  .bind_right (forward_enter _) fun _ => .bind_right forward_beginStatement fun _ =>
    .bind consumes_guarded fun _ => (forward_enter _).bind fun _ => Forward.pure _

theorem consumes_conditional : Consumes conditional :=
  .bind_right forward_opening fun opening => .bind (consumes_expect (by decide)) fun _ =>
    (forward_expect _).bind fun _ => forward_condition.bind fun _ =>
    (forward_expect _).bind fun _ => consumes_body.forward.bind fun _ =>
    (forward_close .conditional opening).bind fun _ => Forward.pure _

/-! ### Statements -/

/-- A step for a clause as a step for the statement that consists of it. -/
def alone (step : Step Clause) : Step Statement := do
  let clause ← step
  return clause.alone

/-- Fails for a token that starts no statement. -/
def refuseStatement : Step Statement :=
  refuse "a declaration, assignment, output or If statement"

/-- Follows the production that was chosen for a statement. A choice that only says that
there is a statement chooses nothing, and is refused. -/
def follow : Production → Step Statement
  | .statement => refuseStatement
  | .identifier => alone identifierStatement
  | .declaration => alone declaration
  | .assignment => alone assignment
  | .output => alone output
  | .conditional => conditional
  | .body => alone body

/-- A statement, checked by the production that is registered for its first token. -/
def statement : Step Statement := do
  beginStatement
  let session ← get
  match session.productions session.current.kind with
  | some production => follow production
  | none => refuseStatement

/-- Checks by a given production. -/
def produce : Production → Step Statement
  | .statement => statement
  | production => follow production

theorem consumes_alone {step : Step Clause} (consumes : Consumes step) :
    Consumes (alone step) :=
  .bind consumes fun _ => Forward.pure _

theorem consumes_follow (production : Production) : Consumes (follow production) := by
  cases production with
  | statement => exact consumes_refuse _
  | identifier => exact consumes_alone consumes_identifierStatement
  | declaration => exact consumes_alone consumes_declaration
  | assignment => exact consumes_alone consumes_assignment
  | output => exact consumes_alone consumes_output
  | conditional => exact consumes_conditional
  | body => exact consumes_alone consumes_body

/-- A statement that was checked has passed at least one token. -/
theorem consumes_statement : Consumes statement :=
  .bind_right forward_beginStatement fun _ => .bind_right forward_get fun session => by
    split
    · exact consumes_follow _
    · exact consumes_refuse _

end HLang.Step
