/-
This file says which way a session goes where a production chooses, as equations between runs. The
first tokens of a statement decide what it is checked as, alone and in the body of a conditional,
and the first token of what an output shows decides whether that is an expression.
-/

import HLang.Proofs.Session.Loops
import HLang.Proofs.Session.Failures

namespace HLang.Step

open Grammar

variable {session : Session}

/-- A leaf at the front is passed where its kind is expected. -/
theorem yields_expect_of_isPrefix {kind : TokenKind} (leaf : Leaf [kind])
    (notEnd : kind ≠ .endOfInput) (front : [leaf.token] <+: session.stream.ahead) :
    Yields (expect kind) session leaf.token (session.pass 1) :=
  (yields_expectOr_iff notEnd).mpr ⟨leaf.kind_eq, front, rfl⟩

theorem yields_opening (session : Session) :
    Yields opening session ⟨session.current.span.start, session.stream.index⟩ session := rfl

/-- The first two tokens of a statement are passed where their kinds are expected. -/
theorem opened_run {Value : Type} {firstKind secondKind : TokenKind}
    {step : Opening → Token → Token → Step Value} (first : Leaf [firstKind])
    (second : Leaf [secondKind])
    (notEnd : firstKind ≠ .endOfInput ∧ secondKind ≠ .endOfInput)
    (front : [first.token, second.token] <+: session.stream.ahead) :
    (opening >>= fun place => expect firstKind >>= fun token =>
        expect secondKind >>= step place token) session =
      step ⟨session.current.span.start, session.stream.index⟩ first.token second.token
        ((session.pass 1).pass 1) := by
  obtain ⟨firstFront, secondFront⟩ := cons_isPrefix_iff.mp front
  rw [(yields_opening session).bind_run,
    (yields_expect_of_isPrefix first notEnd.1 firstFront).bind_run,
    (yields_expect_of_isPrefix second notEnd.2 secondFront).bind_run]

/-! ### Sums -/

/-- A sign joins a further operand to a sum. -/
theorem sumFrom_of_sign {left : ScalarType} (sign : IsSign session.current.kind) :
    sumFrom left session =
      (operand >>= fun right => sumFrom (left.widen right)) (session.pass 1) := by
  unfold IsSign at sign
  rw [sumFrom_eq, get_bind_run, if_pos sign, ← Session.advance_eq_pass]
  rfl

/-- A sum ends at a token that is no sign. -/
theorem sumFrom_of_noSign {left : ScalarType} (noSign : ¬ IsSign session.current.kind) :
    sumFrom left session = (.ok left, session) := by
  unfold IsSign at noSign
  rw [sumFrom_eq, get_bind_run, if_neg noSign]
  rfl

theorem shown_of_expression (other : session.current.kind ≠ .stringLiteral) :
    shown session = (expression >>= fun _ => pure ()) session := by
  unfold shown
  rw [get_bind_run, if_neg other]

/-! ### Statements -/

theorem identifierStatement_of_colon (colon : session.stream.kindAt 1 = .colon) :
    identifierStatement session = declaration session := by
  unfold identifierStatement
  rw [get_bind_run, colon]

theorem identifierStatement_of_colonEquals (sign : session.stream.kindAt 1 = .colonEquals) :
    identifierStatement session = assignment session := by
  unfold identifierStatement
  rw [get_bind_run, sign]

theorem guarded_of_identifier (name : session.current.kind = .identifier)
    (noColon : session.stream.kindAt 1 ≠ .colon) :
    guarded session = identifierStatement session := by
  unfold guarded
  rw [get_bind_run, name]
  show (if session.stream.kindAt 1 = .colon then _ else identifierStatement) session = _
  rw [if_neg noColon]

theorem guarded_of_outputWord (word : session.current.kind = .outputWord) :
    guarded session = output session := by
  unfold guarded
  rw [get_bind_run, word]

/-- A statement is checked by the production registered for the kind of its first token. -/
theorem statement_of_chosen {production : Production}
    (registered : session.productions = grammarProductions)
    (chosen : grammarProductions session.current.kind = some production) :
    statement session = follow production session.beginStatement := by
  rw [statement_run registered, chosen]

end HLang.Step
