/-
This file says that a run does not depend on how variables are spelled or where tokens stand. The
tokens that a run reads are relabelled: the names of variables by an injective map and the places
by any map. A run over them comes to the relabelled outcome, at the same token and in the same
phase, and its table holds the new names with the types of the old ones. So no name is taken for a
word of the language, and no literal and no place decides anything.

The token that closes a list belongs to the tokens read, so it is relabelled with them. Relabelling
a list before it is closed comes to the same, unless the list is empty: then there is no token to
tell where the new input ends.
-/

import HLang.Proofs.Run.Completed
import HLang.Proofs.Session.Relabelling
import Mathlib.Logic.Equiv.Basic

namespace HLang

/-! ### Closing a list twice -/

/-- A stream that was not read yet is the stream of its tokens, whatever their file is called. -/
theorem TokenStream.ofList_toList {stream : TokenStream} (unread : stream.passed = [])
    (file : String) : ofList stream.toList file = stream := by
  rw [toList_of_unread unread]
  unfold ofList
  rw [List.getLast?_concat, List.dropLast_concat, ← unread]
  exact if_pos rfl

/-- The name of the file matters to the stream of an empty list only. -/
theorem TokenStream.ofList_eq_ofList {tokens : List Token} (notEmpty : tokens ≠ [])
    (file other : String) : ofList tokens file = ofList tokens other := by
  unfold ofList
  rw [List.getLast?_eq_some_getLast notEmpty]

theorem closedTokens_ne_nil (tokens : List Token) (file : String) :
    closedTokens tokens file ≠ [] :=
  List.append_ne_nil_of_right_ne_nil _ (List.cons_ne_nil _ _)

/-- A run over a list is a run over the closed list, because nothing is added to it again. -/
theorem validate_closedTokens (tokens : List Token) (file other : String) :
    validate (closedTokens tokens file) other = validate tokens file := by
  have stream : TokenStream.ofList (closedTokens tokens file) other =
      TokenStream.ofList tokens file :=
    TokenStream.ofList_toList (passed_ofList tokens file) other
  unfold validate Session.start
  rw [stream]

variable (labels : Relabelling)

theorem TokenStream.toList_relabel (stream : TokenStream) :
    (stream.relabel labels).toList = stream.toList.map (Token.relabel labels) := by
  simp only [toList, relabel, endToken, List.map_append, List.map_reverse, List.map_cons,
    List.map_nil]
  rfl

/-- Unless a list is empty, it can be relabelled before it is closed. -/
theorem closedTokens_map_relabel {tokens : List Token} (notEmpty : tokens ≠ [])
    (file other : String) :
    closedTokens (tokens.map (Token.relabel labels)) other =
      (closedTokens tokens file).map (Token.relabel labels) := by
  unfold closedTokens
  rw [TokenStream.ofList_map_relabel labels notEmpty, TokenStream.toList_relabel,
    TokenStream.ofList_eq_ofList notEmpty other file]

/-! ### Runs over relabelled tokens -/

/-- A run over relabelled tokens comes to the relabelled outcome. A diagnosis keeps its kind of
fault, a text that it quotes is renamed if the token at which the run ended is an identifier, and
the variables that it names are renamed in any case. -/
theorem validate_relabel (tokens : List Token) (file other : String) :
    let given := validate tokens file
    let renamed := validate ((closedTokens tokens file).map (Token.relabel labels)) other
    (tokens ≠ [] → validate (tokens.map (Token.relabel labels)) other = renamed) ∧
      (∀ checked, given.outcome = .ok checked →
        renamed.outcome = .ok (checked.map (Statement.relabel labels))) ∧
      (∀ diagnosis, given.outcome = .error diagnosis →
        renamed.outcome = .error (diagnosis.relabel labels given.session.current.kind)) ∧
      renamed.session.phase = given.session.phase ∧
      renamed.session.stream.index = given.session.stream.index ∧
      renamed.session.statementStart = labels.place given.session.statementStart ∧
      (∀ name, renamed.session.symbols.find? (labels.name name) =
        given.session.symbols.find? name) ∧
      renamed.session.symbols.size = given.session.symbols.size := by
  intro given renamed
  have mapped : renamed = given.relabel labels := by
    show validate _ other = (validate tokens file).relabel labels
    rw [validate_map_relabel labels (closedTokens_ne_nil tokens file), validate_closedTokens]
  have session : renamed.session = given.session.relabel labels := by
    rw [mapped]
    unfold Validation.relabel
    cases given.outcome <;> rfl
  refine ⟨fun notEmpty => ?_, fun checked accepted => ?_, fun diagnosis failed => ?_, ?_, ?_, ?_,
    fun name => ?_, ?_⟩
  · rw [← validate_closedTokens (tokens.map (Token.relabel labels)) other other,
      closedTokens_map_relabel labels notEmpty file]
  · rw [mapped]
    unfold Validation.relabel
    rw [accepted]
    rfl
  · rw [mapped]
    unfold Validation.relabel
    rw [failed]
    rfl
  · rw [session]
    rfl
  · rw [session]
    exact given.session.index_relabel labels
  · rw [session]
    rfl
  · rw [session]
    exact given.session.symbols.find?_relabel labels name
  · rw [session]
    exact List.length_map _

/-- A variable may be called like the text of the token that ends the input, here the `y` that a
conditional cannot declare. -/
theorem validate_relabel_guardedDeclaration :
    let labels : Relabelling :=
      ⟨Equiv.swap "y" "EOF", fun place => ⟨place.line + 9, 1, place.file⟩,
        (Equiv.swap "y" "EOF").injective⟩
    guardedDeclaration ≠ [] ∧
      (validate (guardedDeclaration.map (Token.relabel labels)) "shell").outcome =
        .error ⟨.unexpectedTokenDetailed "EOF" "declarations are not allowed in an If body",
          ⟨12, 1, "shell"⟩⟩ := by
  intro labels
  obtain ⟨failed, -⟩ := validate_guardedDeclaration
  obtain ⟨direct, -, error, -⟩ := validate_relabel labels guardedDeclaration "shell" "shell"
  have kind : (validate guardedDeclaration "shell").session.current.kind = .identifier := by
    decide +kernel
  refine ⟨List.cons_ne_nil _ _, ?_⟩
  rw [direct (List.cons_ne_nil _ _), error _ failed, kind]
  rfl

end HLang
