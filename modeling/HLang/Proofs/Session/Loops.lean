/-
This file writes the two loops of the checker as steps. A loop is defined by recursion on what is
left to read, and so it is no step made of steps. It does what such a step does, though: one round
of it, and then the loop again. What holds of a step because it holds of its parts can therefore be
shown of the loops as well, by induction on the rounds that succeed.
-/

import HLang.Proofs.Session.Passing
import HLang.Validation

namespace HLang.Step

/-! ### Summands -/

/-- The loop over the summands, step by step. -/
theorem sumFrom_eq (left : ScalarType) :
    sumFrom left = (do
      let session ← get
      if session.current.kind = .plus ∨ session.current.kind = .dash then do
        let _ ← next
        let right ← operand
        sumFrom (left.widen right)
      else return left : Step ScalarType) := by
  funext session
  show sumFrom left session = (if session.current.kind = .plus ∨ session.current.kind = .dash then
    (next >>= fun _ => operand >>= fun right => sumFrom (left.widen right)) else pure left :
    Step ScalarType) session
  rw [sumFrom]
  split
  · rw [bind_run, next_run]
    show _ = (operand >>= fun right => sumFrom (left.widen right)) session.advance
    rw [bind_run]
    split <;> rename_i run <;> rw [run]
  · rfl

/-- Induction on the rounds of the loop over the summands. -/
theorem sumFrom_induction {motive : ScalarType → Session → Prop}
    (round : ∀ left session,
      (session.current.kind = .plus ∨ session.current.kind = .dash →
        ∀ right between, Yields operand session.advance right between →
          motive (left.widen right) between) → motive left session)
    (left : ScalarType) (session : Session) : motive left session := by
  fun_induction sumFrom left session with
  | case1 left session sign right between run inductionHypothesis =>
    refine round left session fun _ other after again => ?_
    obtain ⟨rfl, rfl⟩ := ok_eq_ok_iff.mp (run.symm.trans again)
    exact inductionHypothesis
  | case2 left session sign diagnosis between run =>
    exact round left session fun _ other after again => absurd (run.symm.trans again) error_ne_ok
  | case3 left session noSign => exact round left session fun sign => absurd sign noSign

/-! ### Statements -/

/-- A run, statement by statement. -/
theorem statements_eq :
    Session.statements = (do
      let session ← get
      if session.hasTokens then do
        let first ← statement
        let more ← Session.statements
        return first :: more
      else return [] : Step (List Statement)) := by
  funext session
  show session.statements = (if session.hasTokens then
    (statement >>= fun first => Session.statements >>= fun more => pure (first :: more)) else
    pure [] : Step (List Statement)) session
  rw [Session.statements]
  split
  · rw [bind_run]
    split
    · rename_i run
      rw [run]
    · rename_i first after run
      rw [run]
      show _ = ((Session.statements : Step (List Statement)) >>= fun more =>
        pure (first :: more) : Step (List Statement)) after
      rw [bind_run]
      split
      · rename_i more last later
        rw [later]
        rfl
      · rename_i diagnosis last later
        rw [later]
  · rfl

/-- Induction on the statements of a run: one that succeeds leaves fewer tokens for the others. -/
theorem statements_induction {motive : Session → Prop}
    (round : ∀ session, (∀ first between, Yields statement session first between →
      motive between) → motive session)
    (session : Session) : motive session := by
  induction length : session.remaining using Nat.strongRecOn generalizing session with
  | ind count inductionHypothesis =>
    refine round session fun first between yields => ?_
    have fewer := consumes_statement.fewer session first between yields
    exact inductionHypothesis _ (length ▸ fewer) between rfl

end HLang.Step
