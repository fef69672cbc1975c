/-
This file names the token with which the statement that fails in a run begins. It is the token
behind the longest front of complete statements, or the one behind a header of a conditional if the
tokens read since then begin with one: then the body is what failed. A statement begins with a token
of its own, so only a body can be missing altogether.
-/

import HLang.Proofs.Run.Reported

namespace HLang

open Grammar Step

/-- The tokens that a run has read since the given index. -/
def readSince (tokens : List Token) (file : String) (begun : Nat) : List Token :=
  ((closedTokens tokens file).take (validate tokens file).session.stream.index).drop begun

/-- The statements that the run has completed end before the given index. -/
def CompletedUpTo (tokens : List Token) (file : String) (begun : Nat) : Prop :=
  IsGreatest {count | count ≤ (validate tokens file).session.stream.index ∧
    AcceptedAlone (closedTokens tokens file) file count} begun

/-- The statement that failed in the run begins with the token. The body of a conditional counts as
that statement once the header of the conditional was read. -/
inductive FailsFrom (tokens : List Token) (file : String) (token : Token) : Prop
  | statement (begun : Nat) (completed : CompletedUpTo tokens file begun)
      (headless : ∀ header : Header, ¬ header.tokens <+: readSince tokens file begun)
      (first : (closedTokens tokens file)[begun]? = some token)
      (notEnd : token.kind ≠ .endOfInput)
  | body (begun : Nat) (completed : CompletedUpTo tokens file begun)
      (header : Header) (read : header.tokens <+: readSince tokens file begun)
      (first : (closedTokens tokens file)[begun + header.tokens.length]? = some token)

theorem FailsFrom.mem_closedTokens {tokens : List Token} {file : String} {token : Token}
    (failsFrom : FailsFrom tokens file token) : token ∈ closedTokens tokens file := by
  cases failsFrom with
  | statement begun completed headless first notEnd => exact List.mem_of_getElem? first
  | body begun completed header read first => exact List.mem_of_getElem? first

/-- A run that fails reports its diagnosis where the statement that failed begins. -/
theorem exists_failsFrom {tokens : List Token} {file : String} {diagnosis : Diagnosis}
    (failed : (validate tokens file).outcome = .error diagnosis) :
    ∃ token, FailsFrom tokens file token ∧ token.span.start = diagnosis.position := by
  obtain ⟨program, completed⟩ := exists_completed tokens file
  obtain ⟨notEnd, last, fails, left⟩ := completed.session_of_error failed
  obtain ⟨count, moved, -, inBody, atStart⟩ :=
    position_of_fails_statement (Completed.productions_behind tokens file program) fails
  have stream : (validate tokens file).session.stream = last.stream := by rw [left]
  have since : readSince tokens file (programTokens program).length =
      (Session.behind tokens file program).stream.ahead.take count := by
    rw [readSince, completed.take_index (stream.trans moved), List.drop_left]
  by_cases headed : ∃ header : Header,
      header.tokens <+: (Session.behind tokens file program).stream.ahead.take count
  · obtain ⟨header, read⟩ := headed
    have first := completed.getElem?_behind (read.trans (List.take_prefix count _))
    exact ⟨_, .body _ completed.isGreatest header (since ▸ read) first, inBody header read⟩
  · have headless := not_exists.mp headed
    have first := completed.getElem?_behind List.nil_prefix
    exact ⟨_, .statement _ completed.isGreatest (since ▸ headless) first notEnd, atStart headless⟩

end HLang
