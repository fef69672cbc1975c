/-
This file says what the fault of a run that fails tells of the token at which the run has ended, of
the tokens before it and of the variables declared so far. The fault names that token, unless its
reason is scope or type: then the tokens before it end with the name, the declaration or the
assignment at fault.
-/

import HLang.Proofs.Run.Completed
import HLang.Proofs.Session.Explained

namespace HLang

open Grammar Step

/-- A fault of the grammar is not met at text that is not of the language. -/
theorem Fault.Describes.kind_ne_unknown {before : List Token} {current : Token}
    {table : SymbolTable} {fault : Fault} (describes : fault.Describes before current table)
    (category : fault.category = .grammatical) : current.kind ≠ .unknown := by
  cases fault with
  | unexpectedToken token => exact fun unknown => describes.1 (Or.inl unknown)
  | unexpectedTokenDetailed token message => exact fun unknown => describes.1 (Or.inl unknown)
  | unexpectedEndOfInput expected => exact fun unknown => nomatch unknown.symm.trans describes
  | _ => exact nomatch category

/-- A run that fails ends where its fault was met. -/
theorem explains_of_validate_eq_error {tokens : List Token} {file : String}
    {diagnosis : Diagnosis} (failed : (validate tokens file).outcome = .error diagnosis) :
    (validate tokens file).session.Explains diagnosis.fault := by
  obtain ⟨program, completed⟩ := exists_completed tokens file
  obtain ⟨-, last, fails, left⟩ := completed.session_of_error failed
  have registered := Completed.productions_behind tokens file program
  rw [left]
  exact explained_statement registered diagnosis last fails

theorem seen_validate (tokens : List Token) (file : String) :
    (validate tokens file).session.seen =
      (closedTokens tokens file).take (validate tokens file).session.stream.index := by
  rw [← toList_validate]
  exact (TokenStream.take_index _).symm

/-- The fault of a run that fails describes the token at which the run has ended, the tokens before
it and the table that the run has left. -/
theorem describes_of_validate_eq_error {tokens : List Token} {file : String}
    {diagnosis : Diagnosis} (failed : (validate tokens file).outcome = .error diagnosis) :
    let read := closedTokens tokens file
    let session := (validate tokens file).session
    ∃ current, read[session.stream.index]? = some current ∧
      diagnosis.fault.Describes (read.take session.stream.index) current session.symbols ∧
      (diagnosis.fault.category = .grammatical → current.kind ≠ .unknown) := by
  intro read session
  have describes := explains_of_validate_eq_error failed
  unfold Session.Explains at describes
  rw [seen_validate] at describes
  exact ⟨session.current, getElem?_closedTokens_index tokens file, describes,
    describes.kind_ne_unknown⟩

/-- The tokens `x : integer ; x := 1.5 ;` on two lines. -/
def mistypedAssignment : List Token :=
  guardedDeclaration.take 4 ++
    [.brief .identifier "x" 2 1, .brief .colonEquals ":=" 2 3,
      ⟨.doubleLiteral, "1.5", ⟨⟨2, 6, "shell"⟩, ⟨2, 9, "shell"⟩⟩⟩, .brief .semicolon ";" 2 9]

/-- The assignment that does not fit ends with the eight tokens read. -/
theorem describes_mistypedAssignment :
    (validate mistypedAssignment "shell").outcome =
        .error ⟨.typeMismatch "integer" "double", ⟨2, 1, "shell"⟩⟩ ∧
      ∃ tree : Assignment, tree.tokens <:+ mistypedAssignment ∧
        (validate mistypedAssignment "shell").session.symbols.find? tree.target.token.value =
          some .integer := by
  have failed : (validate mistypedAssignment "shell").outcome =
      .error ⟨.typeMismatch "integer" "double", ⟨2, 1, "shell"⟩⟩ := by decide +kernel
  have read : (closedTokens mistypedAssignment "shell").take
      (validate mistypedAssignment "shell").session.stream.index = mistypedAssignment := by
    decide +kernel
  obtain ⟨current, -, ⟨-, -, tree, tokens, declared, -⟩, -⟩ := describes_of_validate_eq_error failed
  rw [read] at tokens
  exact ⟨failed, tree, tokens, declared⟩

end HLang
