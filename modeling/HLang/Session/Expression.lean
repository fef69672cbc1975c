/-
This file checks expressions and conditions. An expression is one operand or several, joined
by plus and minus signs; an operand is a declared variable or a number, and a number may have
a minus sign of its own. Its type is double as soon as one operand is. A condition compares a
declared variable with one operand.
-/

import HLang.Session.Progress

namespace HLang.Step

/-! ### Operands -/

/-- A numeric literal. -/
def literal : Step ScalarType := do
  let session ← get
  match session.current.kind with
  | .integerLiteral => do
    let _ ← next
    return .integer
  | .doubleLiteral => do
    let _ ← next
    return .double
  | _ => refuse "a numeric literal"

/-- A declared variable, or a numeric literal with or without a minus sign. -/
def operand : Step ScalarType := do
  let session ← get
  match session.current.kind with
  | .identifier => do
    let name ← next
    lookUp name.value
  | .integerLiteral | .doubleLiteral => literal
  | .dash => do
    let _ ← next
    literal
  | .stringLiteral =>
    fail (.unexpectedTokenDetailed session.current.value
      "string literals can only be output on their own")
  | _ => refuse "an identifier or numeric literal"

theorem forward_literal : Forward literal := by
  refine forward_get.bind fun session => ?_
  split
  · exact forward_next.bind fun _ => Forward.pure _
  · exact forward_next.bind fun _ => Forward.pure _
  · exact forward_refuse _

theorem forward_operand : Forward operand := by
  refine forward_get.bind fun session => ?_
  split
  · exact forward_next.bind fun name => forward_lookUp name.value
  · exact forward_literal
  · exact forward_literal
  · exact forward_next.bind fun _ => forward_literal
  · exact forward_fail _
  · exact forward_refuse _

/-! ### Expressions -/

/-- Goes on with an expression whose operands so far have the type `left`. -/
def sumFrom (left : ScalarType) (session : Session) : Except Diagnosis ScalarType × Session :=
  if session.current.kind = .plus ∨ session.current.kind = .dash then
    match _ : operand session.advance with
    | (.ok right, after) => sumFrom (left.widen right) after
    | (.error diagnosis, after) => (.error diagnosis, after)
  else (.ok left, session)
termination_by session.remaining
decreasing_by
  rename_i sign run
  have notEnd : session.current.kind ≠ .endOfInput := by
    rcases sign with sign | sign <;> rw [sign] <;> decide
  have bound := forward_operand session.advance
  rw [run] at bound
  exact Nat.lt_of_le_of_lt bound (remaining_advance_lt notEnd)

/-- An expression; yields its type. -/
def expression : Step ScalarType := do
  let left ← operand
  sumFrom left

theorem forward_sumFrom (left : ScalarType) : Forward (sumFrom left) := by
  intro session
  show (sumFrom left session).2.remaining ≤ session.remaining
  fun_induction sumFrom left session with
  | case1 left session sign right after run inductionHypothesis =>
    have bound := forward_operand session.advance
    rw [run] at bound
    exact Nat.le_trans inductionHypothesis
      (Nat.le_trans bound (remaining_advance_le session))
  | case2 left session sign diagnosis after run =>
    have bound := forward_operand session.advance
    rw [run] at bound
    exact Nat.le_trans bound (remaining_advance_le session)
  | case3 => exact Nat.le_refl _

theorem forward_expression : Forward expression :=
  forward_operand.bind forward_sumFrom

/-! ### Conditions -/

/-- Passes a relational operator. -/
def relation : Step Token := do
  let session ← get
  if session.current.kind.isRelational then next else refuse "a relational operator"

/-- A declared variable, a relational operator and an operand, between the parentheses of a
conditional. -/
def condition : Step Unit := do
  let subject ← expect .identifier
  let _ ← lookUp subject.value
  let _ ← relation
  let _ ← operand
  return ()

theorem forward_relation : Forward relation := by
  refine forward_get.bind fun session => ?_
  split
  · exact forward_next
  · exact forward_refuse _

theorem forward_condition : Forward condition :=
  (forward_expect _).bind fun subject => (forward_lookUp subject.value).bind fun _ =>
    forward_relation.bind fun _ => forward_operand.bind fun _ => Forward.pure _

end HLang.Step
