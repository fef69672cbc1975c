/-
This file adds a declaration that nothing uses. It stands behind tokens that are accepted, and
neither they nor the tokens behind it name its variable. The run over the longer list makes a detour
past the declaration and then does what the other run does: both accept, with the statement of the
declaration as the only difference, or both fail with the same diagnosis. The table holds the new
variable besides the others, and the run ends four tokens further on.
-/

import HLang.Proofs.Run.Extended
import HLang.Proofs.Session.Detours

namespace HLang

open Grammar Step

/-! ### What closes a list -/

theorem TokenStream.endToken_ofList_append (front : List Token) {more : List Token}
    (nonempty : more ≠ []) (file : String) :
    (ofList (front ++ more) file).endToken = (ofList more file).endToken := by
  obtain ⟨first, last, rfl⟩ := List.eq_nil_or_concat more |>.resolve_left nonempty
  unfold ofList
  rw [List.concat_eq_append, ← List.append_assoc, List.getLast?_concat, List.getLast?_concat]
  show (if last.kind = .endOfInput then _ else _ : TokenStream).endToken =
    (if last.kind = .endOfInput then _ else _ : TokenStream).endToken
  split <;> rfl

theorem TokenStream.ahead_ofList_isPrefix (tokens : List Token) (file : String) :
    (ofList tokens file).ahead <+: tokens := by
  unfold ofList
  split
  · exact List.nil_prefix
  · split
    · exact List.dropLast_prefix tokens
    · exact List.prefix_rfl

/-! ### Runs that go on behind a program -/

/-- A run over the statements of a program goes on as a run that begins behind them. -/
theorem Session.statements_of_completes {session : Session} {program : List Form}
    (registered : session.productions = grammarProductions)
    (completes : session.Completes program) :
    session.statements =
      ((session.pastAll program).statements.1.map (program.map Form.statement ++ ·),
        (session.pastAll program).statements.2) := by
  induction program generalizing session with
  | nil =>
    show session.statements = (session.statements.1.map id, session.statements.2)
    rcases session.statements with ⟨_ | _, last⟩ <;> rfl
  | cons form program inductionHypothesis =>
    obtain ⟨front, fits, later⟩ := completes_cons_iff.mp completes
    have more : session.current.kind ≠ .endOfInput := fun ended =>
      stops_of_end ended form front fits
    have passes : statement session = (.ok form.statement, session.past form) :=
      yields_statement_of_form registered front fits
    have rest : (Session.statements : Step (List Statement)) (session.past form) =
      (_, _) := inductionHypothesis registered later
    rw [statements_of_hasTokens (hasTokens_iff.mpr more), bind_run, passes]
    show (Session.statements >>= fun others => pure (form.statement :: others) :
      Step (List Statement)) (session.past form) = _
    rw [bind_run, rest]
    show _ = ((((session.past form).pastAll program).statements).1.map _,
      (((session.past form).pastAll program).statements).2)
    rcases ((session.past form).pastAll program).statements with ⟨_ | _, last⟩ <;> rfl

/-- What a run over a program and further tokens comes to. -/
theorem validate_append {program : List Form} (fits : FitsFrom SymbolTable.empty program)
    (more : List Token) (file : String) :
    let tokens := programTokens program ++ more
    let rest := (Session.behind tokens file program).statements
    (validate tokens file).outcome = rest.1.map (program.map Form.statement ++ ·) ∧
      (validate tokens file).session.stream = rest.2.stream ∧
      (validate tokens file).session.symbols = rest.2.symbols := by
  intro tokens rest
  have run : (Session.start tokens file).registerGrammar.statements =
      (rest.1.map (program.map Form.statement ++ ·), rest.2) :=
    Session.statements_of_completes (registerGrammar_productions tokens file)
      (completes_append fits more file)
  unfold validate
  rw [run]
  exact ⟨rfl, rfl, rfl⟩

/-- A run that begins the next statement at once is the run itself. -/
theorem Session.statements_beginStatement {session : Session} (more : session.hasTokens = true) :
    session.beginStatement.statements = session.statements := by
  have still : session.beginStatement.hasTokens = true := more
  rw [statements_of_hasTokens more, statements_of_hasTokens still, bind_run, bind_run]
  rfl

/-! ### A detour past a declaration -/

/-- The detour past a declaration that stands behind a program. -/
def declarationDetour (program : List Form) (tree : Declaration) : Detour :=
  ⟨(programTokens program).reverse, tree.tokens.reverse, tree.name.token.value, tree.word.type⟩

/-- The table of a program has no name that no identifier of the program has. -/
theorem find?_programTable {program : List Form} {name : String}
    (fits : FitsFrom SymbolTable.empty program)
    (unused : ∀ token ∈ programTokens program, token.kind = .identifier → token.value ≠ name) :
    (programTable program).find? name = none := by
  refine Option.eq_none_iff_forall_ne_some.mpr fun type found => ?_
  have scope : (programTable program).scope = Declares ([] ++ program) :=
    foldl_extend_scope empty_scope fits
  have declares : Declares program name type := by
    rw [List.nil_append] at scope
    rw [← scope]
    exact found
  obtain ⟨tree, member, named, -⟩ := declares
  exact unused tree.name.token (List.mem_flatMap.mpr ⟨_, member, List.mem_cons_self⟩)
    tree.name.kind_eq named

theorem passed_behind_append (program : List Form) (more : List Token) (file : String) :
    (Session.behind (programTokens program ++ more) file program).stream.passed =
      (programTokens program).reverse := by
  have ahead := TokenStream.ahead_ofList_append (noEnd_programTokens program) more file
  rw [Session.behind, Session.stream_pastAll]
  show ((TokenStream.ofList (programTokens program ++ more) file).ahead.take _).reverse ++
    (TokenStream.ofList (programTokens program ++ more) file).passed = _
  rw [ahead, List.take_left, passed_ofList, List.append_nil]

theorem endToken_behind_append (program : List Form) {more : List Token} (nonempty : more ≠ [])
    (file : String) :
    (Session.behind (programTokens program ++ more) file program).stream.endToken =
      (TokenStream.ofList more file).endToken := by
  rw [Session.behind, Session.stream_pastAll]
  exact TokenStream.endToken_ofList_append _ nonempty file

section

variable {program : List Form} {tree : Declaration} {more : List Token}

theorem programTokens_concat_declaration (program : List Form) (tree : Declaration) :
    programTokens (program ++ [.declaration tree]) = programTokens program ++ tree.tokens := by
  rw [programTokens_append, programTokens_cons]
  exact congrArg _ (List.append_nil _)

theorem programTable_concat_declaration (program : List Form) (tree : Declaration) :
    programTable (program ++ [.declaration tree]) =
      ⟨(tree.name.token.value, tree.word.type) :: (programTable program).entries⟩ :=
  List.foldl_append

/-- Behind a declaration that nothing uses, a run is beside the one without it. -/
theorem beside_behind (fits : FitsFrom SymbolTable.empty program) (nonempty : more ≠ [])
    (unused : ∀ token ∈ programTokens program ++ more,
      token.kind = .identifier → token.value ≠ tree.name.token.value) (file : String) :
    (Session.behind (programTokens program ++ more) file program).beginStatement.Beside
      (declarationDetour program tree) 0
      (Session.behind (programTokens (program ++ [.declaration tree]) ++ more) file
        (program ++ [.declaration tree])).beginStatement := by
  have ahead := ahead_behind_append program more file
  have longerAhead := ahead_behind_append (program ++ [.declaration tree]) more file
  have endToken := endToken_behind_append program nonempty file
  have longerEndToken := endToken_behind_append (program ++ [.declaration tree]) nonempty file
  have longerPassed := passed_behind_append (program ++ [.declaration tree]) more file
  have fresh := find?_programTable fits fun token member =>
    unused token (List.mem_append_left more member)
  rw [← ahead] at longerAhead
  rw [← endToken] at longerEndToken
  rw [programTokens_concat_declaration, List.reverse_append] at longerPassed
  refine ⟨⟨[], Nat.le_refl 0, passed_behind_append program more file, ?_⟩, ?_, ?_, ?_, ?_, ?_, ?_⟩
  · rw [programTokens_concat_declaration]
    exact longerPassed
  · exact longerAhead
  · exact longerEndToken
  · exact (Completed.productions_behind _ file _).trans
      (Completed.productions_behind _ file program).symm
  · show (TokenStream.current _).span.start = (TokenStream.current _).span.start
    unfold TokenStream.current
    rw [longerAhead, longerEndToken]
  · show SymbolTable.Gains (Session.behind _ file program).symbols
      (Session.behind _ file (program ++ [.declaration tree])).symbols _ _
    rw [symbols_behind, symbols_behind, programTable_concat_declaration]
    exact ⟨fresh, SymbolTable.find?_cons _ _ _, rfl⟩
  · intro token member
    have among : token ∈ (TokenStream.ofList more file).ahead := ahead ▸ member
    exact unused token (List.mem_append_right _
      ((TokenStream.ahead_ofList_isPrefix more file).subset among))

/-- Sessions that are beside each other once they begin a statement run alike. -/
theorem statements_of_beside {detour : Detour} {least : Nat} {session other : Session}
    (registered : session.productions = grammarProductions)
    (beside : session.beginStatement.Beside detour least other.beginStatement) :
    other.statements.1 = session.statements.1 ∧
      other.statements.2.stream.index =
        session.statements.2.stream.index + detour.within.length ∧
      session.statements.2.symbols.Gains other.statements.2.symbols detour.name detour.type := by
  have sameTokens : other.hasTokens = session.hasTokens := by
    unfold Session.hasTokens
    rw [show other.current = session.current from beside.current]
  by_cases more : session.hasTokens = true
  · have parallels : Parallels detour least Session.statements Session.statements
        session.beginStatement := parallels_statements registered
    obtain ⟨outcome, still⟩ := parallels other.beginStatement beside
    rw [← Session.statements_beginStatement more,
      ← Session.statements_beginStatement (sameTokens.trans more)]
    exact ⟨outcome, still.index, still.symbols⟩
  · rw [Session.statements, Session.statements, if_neg more, if_neg (sameTokens ▸ more)]
    exact ⟨rfl, beside.index, beside.symbols⟩

end

/-- A declaration behind accepted tokens whose variable is named neither in them nor in the tokens
behind it changes nothing else. With it and without it the run accepts, or fails with the same
diagnosis; its statement, its four tokens and its variable are all that is added. -/
theorem validate_insert_declaration {accepted more : List Token} {file : String}
    {checked : List Statement} (noEnd : NoEnd accepted)
    (accepts : (validate accepted file).outcome = .ok checked) (nonempty : more ≠ [])
    (tree : Declaration)
    (unused : ∀ token ∈ accepted ++ more,
      token.kind = .identifier → token.value ≠ tree.name.token.value) :
    let plain := validate (accepted ++ more) file
    let declared := validate (accepted ++ tree.tokens ++ more) file
    ((∃ rest, plain.outcome = .ok (checked ++ rest) ∧
        declared.outcome = .ok (checked ++ tree.clause.alone :: rest)) ∨
      ∃ diagnosis, plain.outcome = .error diagnosis ∧ declared.outcome = .error diagnosis) ∧
    declared.session.stream.index = plain.session.stream.index + 4 ∧
    plain.session.symbols.Gains declared.session.symbols tree.name.token.value tree.word.type := by
  obtain ⟨program, rfl, fits, rfl⟩ := exists_program_of_accepted noEnd accepts
  have fresh := find?_programTable fits fun token member =>
    unused token (List.mem_append_left more member)
  have longerFits : FitsFrom SymbolTable.empty (program ++ [.declaration tree]) :=
    fitsFrom_append_iff.mpr ⟨fits, (declaration_fits_iff tree).mpr fresh, trivial⟩
  obtain ⟨same, index, symbols⟩ := statements_of_beside
    (Completed.productions_behind _ file program) (beside_behind fits nonempty unused file)
  obtain ⟨outcome, stream, table⟩ := validate_append fits more file
  obtain ⟨longerOutcome, longerStream, longerTable⟩ := validate_append longerFits more file
  rw [programTokens_concat_declaration] at longerOutcome longerStream longerTable same index symbols
  intro plain declared
  refine ⟨?_, ?_, ?_⟩
  · show (∃ rest, (validate _ file).outcome = _ ∧ (validate _ file).outcome = _) ∨
      ∃ diagnosis, (validate _ file).outcome = _ ∧ (validate _ file).outcome = _
    rw [outcome, longerOutcome, same]
    rcases (Session.behind (programTokens program ++ more) file program).statements.1 with
      diagnosis | rest
    · exact Or.inr ⟨diagnosis, rfl, rfl⟩
    · refine Or.inl ⟨rest, rfl, congrArg Except.ok ?_⟩
      show (program ++ [Form.declaration tree]).map Form.statement ++ rest = _
      rw [List.map_append, List.append_assoc]
      rfl
  · show (validate _ file).session.stream.index = (validate _ file).session.stream.index + 4
    rw [stream, longerStream, index]
    rfl
  · show SymbolTable.Gains (validate _ file).session.symbols (validate _ file).session.symbols _ _
    rw [table, longerTable]
    exact symbols

/-- The declaration `z : double ;`. -/
def unusedDeclaration : Declaration :=
  ⟨⟨.brief .identifier "z" 2 1, by decide⟩, ⟨.brief .colon ":" 2 2, by decide⟩,
    ⟨.brief .doubleWord "double" 2 3, by decide⟩, ⟨.brief .semicolon ";" 2 9, by decide⟩⟩

/-- Behind the unused declaration, `x` is given a value and then declared a second time. -/
theorem validate_insert_unusedDeclaration :
    let accepted := guardedDeclaration.take 4
    let more := [Token.brief .identifier "x" 3 1, .brief .colonEquals ":=" 3 2,
      .brief .integerLiteral "1" 3 4, .brief .semicolon ";" 3 5, .brief .identifier "x" 4 1,
      .brief .colon ":" 4 2, .brief .doubleWord "double" 4 3, .brief .semicolon ";" 4 9]
    NoEnd accepted ∧ (∃ checked, (validate accepted "shell").outcome = .ok checked) ∧ more ≠ [] ∧
      (∀ token ∈ accepted ++ more, token.kind = .identifier →
        token.value ≠ unusedDeclaration.name.token.value) ∧
      (validate (accepted ++ unusedDeclaration.tokens ++ more) "shell").outcome =
        .error ⟨.duplicateDeclaration "x", ⟨4, 1, "shell"⟩⟩ ∧
      (validate (accepted ++ unusedDeclaration.tokens ++ more) "shell").session.stream.index =
        (validate (accepted ++ more) "shell").session.stream.index + 4 := by
  intro accepted more
  have noEnd : NoEnd accepted := by unfold NoEnd; decide
  have accepts : (validate accepted "shell").outcome =
      .ok [⟨⟨.declaration, ⟨⟨1, 1, "shell"⟩, ⟨1, 11, "shell"⟩⟩, 4⟩, none⟩] := by decide +kernel
  have nonempty : more ≠ [] := List.cons_ne_nil _ _
  have unused : ∀ token ∈ accepted ++ more, token.kind = .identifier →
      token.value ≠ unusedDeclaration.name.token.value := by decide
  have plain : (validate (accepted ++ more) "shell").outcome =
      .error ⟨.duplicateDeclaration "x", ⟨4, 1, "shell"⟩⟩ := by decide +kernel
  obtain ⟨outcomes, index, -⟩ :=
    validate_insert_declaration noEnd accepts nonempty unusedDeclaration unused
  refine ⟨noEnd, ⟨_, accepts⟩, nonempty, unused, ?_, index⟩
  rcases outcomes with ⟨rest, accepted, -⟩ | ⟨diagnosis, failed, declaredFailed⟩
  · exact nomatch plain.symm.trans accepted
  · rw [declaredFailed, ← failed, plain]

end HLang
