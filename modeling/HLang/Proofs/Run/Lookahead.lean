/-
This file compares runs over different tokens. A run stops at its first fault and does not look
beyond its horizon: the token at which it ended, and the one behind it unless that token ends the
input. Whatever tokens follow, a run over any list with the same tokens up to there comes to the
same outcome, at the same token and in the same state.
-/

import HLang.Proofs.Run.Completed
import HLang.Proofs.Session.Horizon

namespace HLang

open Step

/-- Runs over lists with the same tokens up to a limit begin in sessions alike up to it. -/
theorem alike_start {first second : List Token} {file other : String} {limit : Nat}
    (agree : ∀ index ≤ limit,
      (closedTokens second other)[index]? = (closedTokens first file)[index]?) :
    Session.Alike limit (Session.start first file).registerGrammar
      (Session.start second other).registerGrammar := by
  have current (tokens : List Token) (name : String) :
      (closedTokens tokens name)[0]? = some (TokenStream.ofList tokens name).current := by
    have index : (TokenStream.ofList tokens name).index = 0 :=
      congrArg List.length (passed_ofList tokens name)
    rw [← index]
    exact TokenStream.getElem?_index _
  have same := agree 0 (Nat.zero_le limit)
  rw [current, current] at same
  refine ⟨?_, agree, ?_, rfl, rfl, ?_⟩
  · exact (passed_ofList second other).trans (passed_ofList first file).symm
  · rw [registerGrammar_productions, registerGrammar_productions]
  · exact congrArg (fun token : Token => token.span.start) (Option.some.inj same)

/-- Runs over lists with the same tokens up to the horizon of the first run end alike. -/
theorem validate_eq_of_agree {first second : List Token} {file other : String}
    (agree : ∀ index ≤ (validate first file).session.horizon,
      (closedTokens second other)[index]? = (closedTokens first file)[index]?) :
    (validate second other).outcome = (validate first file).outcome ∧
      (validate second other).session.stream.index =
        (validate first file).session.stream.index ∧
      (validate second other).session.statementStart =
        (validate first file).session.statementStart ∧
      (validate second other).session.phase = (validate first file).session.phase ∧
      (validate second other).session.symbols = (validate first file).session.symbols := by
  have near := nearsighted_statements (registerGrammar_productions first file)
  obtain ⟨outcome, alike⟩ := near.same _ _ (Nat.le_refl _) (alike_start agree)
  exact ⟨outcome, alike.index, alike.statementStart, congrArg finalPhase outcome, alike.symbols⟩

/-- The diagnosis of a declaration in the body of a conditional stands before its type is seen. -/
theorem validate_guardedDeclaration_append :
    (∀ index ≤ (validate guardedDeclaration "shell").session.horizon,
      (closedTokens (guardedDeclaration ++ [.brief .unknown "#" 3 3]) "shell")[index]? =
        (closedTokens guardedDeclaration "shell")[index]?) ∧
    (validate (guardedDeclaration ++ [.brief .unknown "#" 3 3]) "shell").outcome =
      .error ⟨.unexpectedTokenDetailed "y" "declarations are not allowed in an If body",
        ⟨3, 1, "shell"⟩⟩ := by
  have horizon : (validate guardedDeclaration "shell").session.horizon = 11 := by
    decide +kernel
  have agree : ∀ index ≤ (validate guardedDeclaration "shell").session.horizon,
      (closedTokens (guardedDeclaration ++ [.brief .unknown "#" 3 3]) "shell")[index]? =
        (closedTokens guardedDeclaration "shell")[index]? := by
    rw [horizon]
    decide
  exact ⟨agree, (validate_eq_of_agree agree).1.trans validate_guardedDeclaration.1⟩

end HLang
