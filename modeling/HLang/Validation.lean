/-
This file checks whole programs. Statements are checked one after the other until the input
ends or one fails; the first failure ends the run. A run yields the checked statements or the
diagnosis, and the session in which it ended, whose table holds the variables of the
statements that were completed.
-/

import HLang.Session.Production

namespace HLang

/-! ### Runs -/

/-- Checks the statements from the current token to the end of the input. -/
def Session.statements (session : Session) : Except Diagnosis (List Statement) × Session :=
  if session.hasTokens then
    match _ : Step.statement session with
    | (.error diagnosis, after) => (.error diagnosis, after)
    | (.ok statement, after) =>
      match after.statements with
      | (.ok more, last) => (.ok (statement :: more), last)
      | (.error diagnosis, last) => (.error diagnosis, last)
  else (.ok [], session)
termination_by session.remaining
decreasing_by
  rename_i run
  exact Step.consumes_statement.fewer session statement after run

/-- How checking a program ended: with its statements or with a diagnosis, and in which
session. -/
structure Validation where
  outcome : Except Diagnosis (List Statement)
  session : Session

/-- The phase in which a run ends. -/
def finalPhase : Except Diagnosis (List Statement) → Phase
  | .ok _ => .done
  | .error _ => .failed

/-- Checks a program. -/
def validate (tokens : List Token) (file : String) : Validation :=
  let run := (Session.start tokens file).registerGrammar.statements
  ⟨run.1, { run.2 with phase := finalPhase run.1 }⟩

/-! ### Verdicts -/

/-- The verdict on a program. -/
inductive Verdict where
  | accepted
  | rejected (diagnosis : Diagnosis)
deriving DecidableEq, Inhabited

namespace Verdict

/-- The verdict that an outcome amounts to. -/
def ofOutcome : Except Diagnosis (List Statement) → Verdict
  | .ok _ => .accepted
  | .error diagnosis => .rejected diagnosis

/-- Whether the program was accepted. -/
def isAccepted : Verdict → Bool
  | .accepted => true
  | .rejected _ => false

/-- The verdict in one line. -/
def message : Verdict → String
  | .accepted => "NO ERROR(S) FOUND"
  | .rejected _ => "ERROR"

/-- The diagnosis of a program that was rejected. -/
def diagnosis? : Verdict → Option Diagnosis
  | .accepted => none
  | .rejected diagnosis => some diagnosis

/-- The source line of the statement that failed. -/
def failingLine? (verdict : Verdict) : Option UInt32 :=
  verdict.diagnosis?.map fun diagnosis => diagnosis.position.line

/-- The account of the failure. -/
def reason? (verdict : Verdict) : Option String :=
  verdict.diagnosis?.map Diagnosis.text

/-- The kind of the failure. -/
def faultName? (verdict : Verdict) : Option String :=
  verdict.diagnosis?.map fun diagnosis => diagnosis.fault.name

end Verdict

end HLang
