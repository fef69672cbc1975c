/-
This file proves that an error of the text or of the grammar is found at the earliest token that
shows it. The tokens before the one at which the run ended are still the beginning of some
program, if only their kinds are looked at; with that token they are not, or, if it ends the
input, they are no whole program.

The exception is a declaration in the body of a conditional. An identifier can stand there, so it
is the colon behind it that no program goes on with, and the run ends at the identifier.
-/

import HLang.Proofs.Run.Completed
import HLang.Proofs.Session.Junctures

namespace HLang

open Grammar Step

/-- At the index, where the body of a conditional is due, an identifier stands with a colon
behind it. -/
structure DeclaresInBody (tokens : List Token) (index : Nat) : Prop where
  due : ∃ program, ∃ header : Header,
    programTokens program ++ header.tokens = tokens.take index
  name : (tokens[index]?).map Token.kind = some .identifier
  colon : (tokens[index + 1]?).map Token.kind = some .colon

/-- What a run that fails has read leads to a juncture where the run is stuck, unless the reason is
scope or type. -/
theorem exists_juncture_of_validate_eq_error {tokens : List Token} {file : String}
    {diagnosis : Diagnosis} (failed : (validate tokens file).outcome = .error diagnosis) :
    ∃ here, Juncture.start.read (kinds ((closedTokens tokens file).take
        (validate tokens file).session.stream.index)) = some here ∧
      (diagnosis.fault.category = .semantic ∨ Stuck here (validate tokens file).session) := by
  obtain ⟨program, completed⟩ := exists_completed tokens file
  obtain ⟨notEnd, last, fails, left⟩ := completed.session_of_error failed
  have follows := follows_statement (Completed.productions_behind tokens file program) notEnd
  unfold Follows at follows
  rw [show statement _ = _ from fails] at follows
  obtain ⟨count, here, moved, reads, reason⟩ := follows
  have stream : (validate tokens file).session.stream = last.stream := by rw [left]
  refine ⟨here, ?_, ?_⟩
  · rw [completed.take_index (stream.trans moved), read_program]
    exact reads
  · rw [left]
    exact reason

/-- No body of a conditional goes on with an identifier and a colon. -/
theorem DeclaresInBody.not_viable {tokens : List Token} {index : Nat}
    (declares : DeclaresInBody tokens index) : ¬ Viable (tokens.take (index + 2)) := by
  obtain ⟨name, nameAt, nameKind⟩ := Option.map_eq_some_iff.mp declares.name
  obtain ⟨colon, colonAt, colonKind⟩ := Option.map_eq_some_iff.mp declares.colon
  rw [List.take_add_one, List.take_add_one, nameAt, colonAt, List.append_assoc]
  refine Juncture.not_viable_of_read (Juncture.accepts_body_iff.mpr declares.due) ?_
  show Juncture.body.read [name.kind, colon.kind] = none
  rw [nameKind, colonKind]
  rfl

/-- Where a run has failed for the text or the grammar, the tokens before are the beginning of a
program. With the token at which it ended they are not, and they are no whole program if that token
ends the input. Only if that token begins a declaration in the body of a conditional, the token
behind it is needed as well. -/
theorem viable_of_validate_eq_error {tokens : List Token} {file : String} {diagnosis : Diagnosis}
    (failed : (validate tokens file).outcome = .error diagnosis)
    (category : diagnosis.fault.category = .lexical ∨ diagnosis.fault.category = .grammatical) :
    let read := closedTokens tokens file
    let index := (validate tokens file).session.stream.index
    Viable (read.take index) ∧
      (¬ DeclaresInBody read index → ¬ Viable (read.take (index + 1))) ∧
      ((read[index]?).map Token.kind = some .endOfInput →
        ¬ ∃ program, kinds (programTokens program) = kinds (read.take index)) ∧
      (DeclaresInBody read index → ¬ Viable (read.take (index + 2))) := by
  intro read index
  obtain ⟨here, reads, reason⟩ := exists_juncture_of_validate_eq_error failed
  have stuck : Stuck here (validate tokens file).session := by
    refine reason.resolve_left fun semantic => ?_
    rw [semantic] at category
    exact category.elim (by simp) (by simp)
  have current := getElem?_closedTokens_index tokens file
  refine ⟨Juncture.exists_read_iff.mp ⟨here, reads⟩, fun exempt => ?_, fun ended => ?_,
    DeclaresInBody.not_viable⟩
  · rcases stuck with ⟨refused, -⟩ | ⟨rfl, name, colon⟩
    · rw [List.take_add_one, show read[index]? = _ from current]
      refine Juncture.not_viable_of_read reads ?_
      show here.read [_] = none
      rw [Juncture.read_cons, refused]
      rfl
    · refine absurd ⟨Juncture.accepts_body_iff.mp reads, ?_, ?_⟩ exempt
      · rw [current, Option.map_some, name]
      · rw [TokenStream.kindAt_eq_iff (by simp), toList_validate] at colon
        exact colon
  · rw [show read[index]? = _ from current, Option.map_some, Option.some.injEq] at ended
    rintro ⟨program, same⟩
    obtain rfl := Juncture.eq_start_of_read reads same
    rcases stuck with ⟨-, unfinished⟩ | ⟨inBody, -, -⟩
    · exact unfinished ended rfl
    · exact absurd inBody (by decide)

/-- The body of a conditional may start with `y`, and no body goes on with `y :`. -/
theorem viable_of_validate_guardedDeclaration :
    (validate guardedDeclaration "shell").outcome =
      .error ⟨.unexpectedTokenDetailed "y" "declarations are not allowed in an If body",
        ⟨3, 1, "shell"⟩⟩ ∧
    Viable ((closedTokens guardedDeclaration "shell").take 10) ∧
    DeclaresInBody (closedTokens guardedDeclaration "shell") 10 ∧
    ¬ Viable ((closedTokens guardedDeclaration "shell").take 12) := by
  obtain ⟨failed, index⟩ := validate_guardedDeclaration
  have law := viable_of_validate_eq_error failed (Or.inr rfl)
  rw [index] at law
  obtain ⟨viable, -, -, declared⟩ := law
  have declares : DeclaresInBody (closedTokens guardedDeclaration "shell") 10 :=
    ⟨Juncture.accepts_body_iff.mp rfl, rfl, rfl⟩
  exact ⟨failed, viable, declares, declared declares⟩

end HLang
