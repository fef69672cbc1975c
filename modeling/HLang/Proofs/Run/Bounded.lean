/-
This file bounds the two loops of the checker by the tokens they find. The loop over statements ends
within a quarter as many statements as there are tokens before the first end of input, and one more
if that one fails; it does not move the mark behind that end of input. The loop over summands ends
within as many rounds as there are tokens left.

Each loop is compared with one that counts its rounds and gives up when it has none left. The number
of rounds is all that the counting loop knows, so a bound for it is a bound for the loop.
-/

import HLang.Proofs.Run.Extended
import HLang.Proofs.Session.Strides

namespace HLang

open Grammar Step

/-! ### The loop over statements -/

namespace Session

/-- Checks statements up to the end of the input like `statements`, but gives up when more of them
succeed than the given number. A statement that fails ends the loop and is not counted. -/
def statementsWithin :
    Nat → Session → Option (Except Diagnosis (List Statement) × Session)
  | rounds, session =>
    if session.hasTokens then
      match Step.statement session with
      | (.error diagnosis, after) => some (.error diagnosis, after)
      | (.ok first, after) =>
        match rounds with
        | 0 => none
        | left + 1 => (after.statementsWithin left).map fun run => (run.1.map (first :: ·), run.2)
    else some (.ok [], session)

variable {session : Session}

/-- A quarter of the tokens before the end of input is enough. -/
theorem statementsWithin_eq {rounds : Nat} (registered : session.productions = grammarProductions)
    (enough : (beforeEnd session.stream.ahead).length / 4 ≤ rounds) :
    session.statementsWithin rounds = some session.statements := by
  induction rounds using Nat.strongRecOn generalizing session with
  | ind rounds inductionHypothesis =>
    rw [statementsWithin]
    split
    · rename_i more
      rw [statements_of_hasTokens more, bind_run]
      split <;> rename_i run <;> rw [run]
      rename_i first after
      -- The statement has taken four of the tokens at least, so the others need a round less.
      obtain ⟨form, front, -, -, rfl⟩ := exists_form_of_yields registered run
      have four := form.four_le_length_tokens
      rw [beforeEnd_ahead_of_isPrefix front, List.length_append] at enough
      cases rounds with
      | zero => omega
      | succ left =>
        have rest : (session.past form).statementsWithin left =
            some (session.past form).statements :=
          inductionHypothesis left (Nat.lt_succ_self left) registered (by omega)
        show Option.map _ _ = some ((Session.statements >>= fun later => pure (first :: later) :
          Step (List Statement)) (session.past form))
        rw [rest, bind_run]
        rcases (session.past form).statements with ⟨diagnosis | later, last⟩ <;> rfl
    · rename_i none
      rw [statements, if_neg none]

theorem clears_of_statement {run : Except Diagnosis Statement × Session}
    (registered : session.productions = grammarProductions)
    (same : Step.statement session = run) : session.Clears run.2 :=
  same ▸ clears_statement registered

/-- A run passes no barrier. -/
theorem clears_statements (registered : session.productions = grammarProductions) :
    session.Clears session.statements.2 := by
  fun_induction Session.statements session with
  | case1 session more diagnosis after failed => exact clears_of_statement registered failed
  | case2 session more first after passed rest last later inductionHypothesis =>
    have clears := clears_of_statement registered passed
    obtain ⟨form, -, -, -, rfl⟩ := exists_form_of_yields registered passed
    rw [later] at inductionHypothesis
    exact clears.trans (inductionHypothesis registered)
  | case3 session more first after passed diagnosis last later inductionHypothesis =>
    have clears := clears_of_statement registered passed
    obtain ⟨form, -, -, -, rfl⟩ := exists_form_of_yields registered passed
    rw [later] at inductionHypothesis
    exact clears.trans (inductionHypothesis registered)
  | case4 session none => exact .stay rfl

end Session

/-! ### The loop over summands -/

/-- Goes on with an expression like `sumFrom`, but gives up when there are more signs than the given
number. -/
def Step.sumWithin : Nat → ScalarType → Session → Option (Except Diagnosis ScalarType × Session)
  | rounds, left, session =>
    if session.current.kind = .plus ∨ session.current.kind = .dash then
      match rounds with
      | 0 => none
      | more + 1 =>
        match operand session.advance with
        | (.error diagnosis, after) => some (.error diagnosis, after)
        | (.ok right, after) => sumWithin more (left.widen right) after
    else some (.ok left, session)

/-- A round leaves fewer tokens than it found, whatever comes of its operand. -/
theorem Step.remaining_round_lt {session : Session}
    (sign : session.current.kind = .plus ∨ session.current.kind = .dash) :
    (operand session.advance).2.remaining < session.remaining := by
  have notEnd : session.current.kind ≠ .endOfInput := by
    rcases sign with kind | kind <;> rw [kind] <;> decide
  exact Nat.lt_of_le_of_lt (forward_operand session.advance) (remaining_advance_lt notEnd)

/-- If there is a sign, enough rounds are one round at least. -/
theorem Step.exists_round {rounds : Nat} {session : Session} (enough : session.remaining ≤ rounds)
    (sign : session.current.kind = .plus ∨ session.current.kind = .dash) :
    ∃ more, rounds = more + 1 := by
  have fewer := (remaining_round_lt sign).trans_le enough
  exact Nat.exists_eq_succ_of_ne_zero (Nat.ne_zero_of_lt fewer)

/-- With rounds left, a sign is followed as in the loop itself. -/
theorem Step.sumWithin_succ {left : ScalarType} {session : Session} (more : Nat)
    (sign : session.current.kind = .plus ∨ session.current.kind = .dash) :
    sumWithin (more + 1) left session =
      match operand session.advance with
      | (.error diagnosis, after) => some (.error diagnosis, after)
      | (.ok right, after) => sumWithin more (left.widen right) after := by
  rw [sumWithin, if_pos sign]

/-- As many rounds as tokens are left are enough. -/
theorem Step.sumWithin_eq {rounds : Nat} {left : ScalarType} {session : Session}
    (enough : session.remaining ≤ rounds) :
    sumWithin rounds left session = some (sumFrom left session) := by
  fun_induction sumFrom left session generalizing rounds with
  | case1 left session sign right after run inductionHypothesis =>
    obtain ⟨more, rfl⟩ := exists_round enough sign
    have fewer := remaining_round_lt sign
    rw [run] at fewer
    rw [sumWithin_succ more sign, run]
    exact inductionHypothesis (Nat.le_of_lt_succ (fewer.trans_le enough))
  | case2 left session sign diagnosis after run =>
    obtain ⟨more, rfl⟩ := exists_round enough sign
    rw [sumWithin_succ more sign, run]
  | case3 left session noSign => cases rounds <;> rw [sumWithin, if_neg noSign]

/-! ### Progress and bounds -/

/-- A production passes no barrier and, if it succeeds, at least four tokens. So the loop over
statements ends before the first end of input, after at most a quarter as many statements that
succeed as there are tokens before it, and the loop over summands after at most as many rounds as
there are tokens left. -/
theorem progress_and_bounds :
    (∀ session production, session.productions = grammarProductions →
      production ≠ .identifier → Strides session (produce production session)) ∧
    (∀ session : Session, session.productions = grammarProductions →
      session.statementsWithin ((beforeEnd session.stream.ahead).length / 4) =
          some session.statements ∧
        session.statements.2.stream.index ≤
          session.stream.index + (beforeEnd session.stream.ahead).length) ∧
    (∀ tokens file,
      ((Session.start tokens file).registerGrammar.statementsWithin
          ((beforeEnd tokens).length / 4)).map Prod.fst = some (validate tokens file).outcome ∧
        (validate tokens file).session.stream.index ≤ (beforeEnd tokens).length) ∧
    ∀ left session, sumWithin session.remaining left session = some (sumFrom left session) := by
  refine ⟨fun session production => strides_produce, fun session registered => ?_,
    fun tokens file => ?_, fun left session => sumWithin_eq (Nat.le_refl _)⟩
  · exact ⟨Session.statementsWithin_eq registered (Nat.le_refl _),
      (Session.clears_statements registered).index_le_beforeEnd⟩
  · have registered := registerGrammar_productions tokens file
    have before := beforeEnd_ahead_ofList tokens file
    constructor
    · rw [Session.statementsWithin_eq registered (Nat.div_le_div_right (Nat.le_of_eq _))]
      · rfl
      · exact congrArg List.length before
    · have bound := (Session.clears_statements registered).index_le_beforeEnd
      have first : (Session.start tokens file).registerGrammar.stream.index = 0 :=
        congrArg List.length (passed_ofList tokens file)
      rw [first, Nat.zero_add] at bound
      exact bound.trans (Nat.le_of_eq (congrArg List.length before))

end HLang
