/-
This file follows a run over a program with further tokens behind it. The run completes the
statements of the program and goes on as if it began with the further tokens, except that the table
holds the variables of the program. If a statement fails there, the run fails, and the table stays
that of the program.
-/

import HLang.Proofs.Run.Completed
import HLang.Proofs.Session.Loops

namespace HLang

open Grammar Step

/-! ### Tokens behind others -/

/-- What closes a list is decided behind its front. -/
theorem TokenStream.ahead_ofList_append {front : List Token} (noEnd : NoEnd front)
    (more : List Token) (file : String) :
    (ofList (front ++ more) file).ahead = front ++ (ofList more file).ahead := by
  unfold ofList
  rcases more.eq_nil_or_concat with rfl | ⟨first, last, rfl⟩
  · rw [List.append_nil]
    cases shape : front.getLast? with
    | none => rw [List.getLast?_eq_none_iff.mp shape]; rfl
    | some token =>
      have inside := noEnd token (List.mem_of_getLast? shape)
      show (if token.kind = .endOfInput then _ else _ : TokenStream).ahead = front ++ []
      rw [if_neg inside, List.append_nil]
  · rw [List.concat_eq_append, ← List.append_assoc, List.getLast?_concat, List.getLast?_concat]
    show (if last.kind = .endOfInput then _ else _ : TokenStream).ahead =
      front ++ (if last.kind = .endOfInput then _ else _ : TokenStream).ahead
    split
    · rw [List.dropLast_concat, List.dropLast_concat]
    · exact List.append_assoc front first [last]

theorem TokenStream.isPrefix_ofList_append {front : List Token} (noEnd : NoEnd front)
    (more : List Token) (file : String) : front <+: (ofList (front ++ more) file).ahead := by
  rw [ahead_ofList_append noEnd]
  exact List.prefix_append _ _

/-- Where tokens that do not end the input stand, the input does not end. -/
theorem Session.kind_current_ne_end {session : Session} {front : List Token} (noEnd : NoEnd front)
    (nonempty : front ≠ []) (ahead : front <+: session.stream.ahead) :
    session.current.kind ≠ .endOfInput := by
  obtain ⟨first, more, rfl⟩ := List.exists_cons_of_ne_nil nonempty
  rw [current_of_isPrefix ahead]
  exact noEnd first List.mem_cons_self

/-! ### Runs over programs -/

/-- The table that a program leaves. -/
def programTable (program : List Form) : SymbolTable :=
  program.foldl Form.extend SymbolTable.empty

/-- Tokens without an end of input that are accepted are those of a program. -/
theorem exists_program_of_accepted {tokens : List Token} {file : String} {checked : List Statement}
    (noEnd : NoEnd tokens) (accepted : (validate tokens file).outcome = .ok checked) :
    ∃ program, programTokens program = tokens ∧ FitsFrom SymbolTable.empty program ∧
      program.map Form.statement = checked := by
  obtain ⟨program, whole, fitting, checks⟩ := (validate_eq_ok_iff tokens file checked).mp accepted
  have all : beforeEnd tokens = tokens :=
    List.takeWhile_eq_self_iff.mpr fun token member => decide_eq_true (noEnd token member)
  exact ⟨program, whole.trans all, fitsFrom_empty_iff.mpr fitting, checks⟩

/-- A run over a program yields its statements and leaves its table. -/
theorem validate_programTokens {program : List Form} (fits : FitsFrom SymbolTable.empty program)
    (file : String) :
    (validate (programTokens program) file).outcome = .ok (program.map Form.statement) ∧
      (validate (programTokens program) file).session.symbols = programTable program := by
  have whole : programTokens program =
      beforeEnd (Session.start (programTokens program) file).registerGrammar.stream.ahead :=
    (beforeEnd_programTokens program).symm.trans (beforeEnd_ahead_ofList _ file).symm
  have run := statements_of_program (registerGrammar_productions (programTokens program) file)
    whole fits
  refine ⟨congrArg Prod.fst run, ?_⟩
  exact (congrArg (fun run => run.2.symbols) run).trans (Session.symbols_pastAll _ program)

/-! ### Runs that go on behind a program -/

theorem completes_append {program : List Form} (fits : FitsFrom SymbolTable.empty program)
    (more : List Token) (file : String) :
    (Session.start (programTokens program ++ more) file).registerGrammar.Completes program :=
  ⟨TokenStream.isPrefix_ofList_append (noEnd_programTokens program) more file, fits⟩

theorem symbols_behind (tokens : List Token) (file : String) (program : List Form) :
    (Session.behind tokens file program).symbols = programTable program :=
  Session.symbols_pastAll _ program

/-- Behind a program, the run reads what a run over the further tokens reads. -/
theorem ahead_behind_append (program : List Form) (more : List Token) (file : String) :
    (Session.behind (programTokens program ++ more) file program).stream.ahead =
      (TokenStream.ofList more file).ahead := by
  have ahead : (Session.start (programTokens program ++ more) file).registerGrammar.stream.ahead =
      programTokens program ++ (TokenStream.ofList more file).ahead :=
    TokenStream.ahead_ofList_append (noEnd_programTokens program) more file
  rw [Session.behind, Session.stream_pastAll]
  show List.drop _ _ = _
  rw [ahead, List.drop_left]

/-! ### Runs that fail behind a program -/

/-- A run with tokens left is a statement, and the run behind it. -/
theorem Session.statements_of_hasTokens {session : Session} (more : session.hasTokens = true) :
    session.statements =
      (statement >>= fun first => Session.statements >>= fun later =>
        pure (first :: later) : Step (List Statement)) session := by
  refine (congrFun statements_eq session).trans ?_
  show (if session.hasTokens = true then _ else _ : Step (List Statement)) session = _
  rw [if_pos more]

/-- A run in which a statement fails behind completed ones fails as that statement does. -/
theorem Session.statements_of_fails {session last : Session} {program : List Form}
    {diagnosis : Diagnosis} (registered : session.productions = grammarProductions)
    (completes : session.Completes program)
    (notEnd : (session.pastAll program).current.kind ≠ .endOfInput)
    (failed : Fails statement (session.pastAll program) diagnosis last) :
    Fails Session.statements session diagnosis last := by
  unfold Fails
  induction program generalizing session with
  | nil =>
    have more : session.hasTokens = true := hasTokens_iff.mpr notEnd
    rw [statements_of_hasTokens more]
    exact fails_bind_iff.mpr (Or.inl failed)
  | cons form program inductionHypothesis =>
    obtain ⟨front, fits, later⟩ := completes_cons_iff.mp completes
    have more : session.current.kind ≠ .endOfInput := fun ended =>
      stops_of_end ended form front fits
    rw [statements_of_hasTokens (hasTokens_iff.mpr more)]
    exact fails_bind_iff.mpr (Or.inr ⟨_, _, yields_statement_of_form registered front fits,
      fails_bind_iff.mpr (Or.inl (inductionHypothesis registered later notEnd failed))⟩)

theorem symbols_of_fails_statement {session after : Session} {diagnosis : Diagnosis}
    (registered : session.productions = grammarProductions)
    (failed : Fails statement session diagnosis after) : after.symbols = session.symbols := by
  rcases fails_statement_cases registered failed with ⟨count, rfl, -⟩ | ⟨header, -, count, rfl, -⟩
  · rfl
  · rfl

/-- If a statement fails behind a program, the program is what the run completes, and the run fails
as the statement does. -/
theorem validate_of_fails {program : List Form} {tokens : List Token} {file : String}
    {diagnosis : Diagnosis} {last : Session}
    (completes : (Session.start tokens file).registerGrammar.Completes program)
    (notEnd : (Session.behind tokens file program).current.kind ≠ .endOfInput)
    (failed : Fails statement (Session.behind tokens file program) diagnosis last) :
    (validate tokens file).outcome = .error diagnosis ∧
      (validate tokens file).session = { last with phase := .failed } ∧
      Completed tokens file program := by
  have run : (Session.start tokens file).registerGrammar.statements = (.error diagnosis, last) :=
    Session.statements_of_fails (registerGrammar_productions tokens file) completes notEnd failed
  refine ⟨congrArg Prod.fst run, ?_, completes, ?_⟩
  · unfold validate
    rw [run]
    rfl
  · rw [run]
    exact ⟨notEnd, failed⟩

end HLang
