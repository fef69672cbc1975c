/-
This file splits a run into the statements it completed and the statement in which it ended.
Whatever came of the run, the statements of some program stand at the front of the tokens, each
fits those before it, and behind them either the input ends or a statement fails; in both cases no
statement that fits stands there. So no longer front of the tokens is a program that fits, and by
`Completed.isGreatest` the completed statements are the longest front that is accepted on its own.
-/

import HLang.Proofs.Acceptance
import HLang.Proofs.Session.Failures
import Mathlib.Data.List.TakeWhile
import Mathlib.Order.Bounds.Defs

namespace HLang

open Grammar Step

/-! ### Programs at the front of the tokens -/

namespace Session

/-- The statements of the program stand at the front of the tokens ahead, and each fits the table
that those before it have left. -/
structure Completes (session : Session) (program : List Form) : Prop where
  front : programTokens program <+: session.stream.ahead
  fits : FitsFrom session.symbols program

/-- The session after the statements of a program were checked. -/
def pastAll (session : Session) (program : List Form) : Session :=
  program.foldl past session

/-- No statement that fits stands at the front of the tokens ahead. -/
def Stops (session : Session) : Prop :=
  ∀ form : Form, form.tokens <+: session.stream.ahead → ¬ form.Fits session.symbols.scope

variable {session : Session}

theorem completes_cons_iff {form : Form} {program : List Form} :
    session.Completes (form :: program) ↔
      form.tokens <+: session.stream.ahead ∧ form.Fits session.symbols.scope ∧
        (session.past form).Completes program := by
  constructor
  · rintro ⟨front, fits, later⟩
    rw [programTokens_cons, append_isPrefix_iff] at front
    exact ⟨front.1, fits, front.2, later⟩
  · rintro ⟨front, fits, later⟩
    refine ⟨?_, fits, later.fits⟩
    rw [programTokens_cons, append_isPrefix_iff]
    exact ⟨front, later.front⟩

theorem stream_pastAll (session : Session) (program : List Form) :
    (session.pastAll program).stream = session.stream.pass (programTokens program).length := by
  induction program generalizing session with
  | nil => rfl
  | cons form program inductionHypothesis =>
    rw [programTokens_cons, List.length_append, ← TokenStream.pass_pass]
    exact inductionHypothesis (session.past form)

theorem productions_pastAll (session : Session) (program : List Form) :
    (session.pastAll program).productions = session.productions := by
  induction program generalizing session with
  | nil => rfl
  | cons form program inductionHypothesis => exact inductionHypothesis (session.past form)

theorem symbols_pastAll (session : Session) (program : List Form) :
    (session.pastAll program).symbols = program.foldl Form.extend session.symbols := by
  induction program generalizing session with
  | nil => rfl
  | cons form program inductionHypothesis => exact inductionHypothesis (session.past form)

/-! ### Where a run stops -/

theorem stops_of_fails {diagnosis : Diagnosis} {after : Session}
    (registered : session.productions = grammarProductions)
    (failed : Fails statement session diagnosis after) : session.Stops := by
  intro form front fits
  exact error_ne_ok (failed.symm.trans (yields_statement_of_form registered front fits))

theorem stops_of_end (ended : session.current.kind = .endOfInput) : session.Stops := by
  intro form front fits
  obtain ⟨token, more, shape⟩ := List.exists_cons_of_ne_nil form.tokens_ne_nil
  rw [shape] at front
  rw [current_of_isPrefix front] at ended
  exact form.noEnd token (shape ▸ List.mem_cons_self) ended

/-- Two statements that fit and stand at the front of the same tokens leave the same session. -/
theorem past_eq_past (registered : session.productions = grammarProductions) {first second : Form}
    (firstFront : first.tokens <+: session.stream.ahead)
    (firstFits : first.Fits session.symbols.scope)
    (secondFront : second.tokens <+: session.stream.ahead)
    (secondFits : second.Fits session.symbols.scope) :
    session.past first = session.past second :=
  (ok_eq_ok_iff.mp ((yields_statement_of_form registered firstFront firstFits).symm.trans
    (yields_statement_of_form registered secondFront secondFits))).2

/-- No program that fits goes on behind one where the session stops. -/
theorem Completes.length_le {program other : List Form} (otherCompletes : session.Completes other)
    (completes : session.Completes program)
    (registered : session.productions = grammarProductions)
    (stops : (session.pastAll program).Stops) :
    (programTokens other).length ≤ (programTokens program).length := by
  induction other generalizing session program with
  | nil => exact Nat.zero_le _
  | cons form other inductionHypothesis =>
    obtain ⟨front, fits, later⟩ := completes_cons_iff.mp otherCompletes
    cases program with
    | nil => exact absurd fits (stops form front)
    | cons own program =>
      obtain ⟨ownFront, ownFits, ownLater⟩ := completes_cons_iff.mp completes
      have same := past_eq_past registered front fits ownFront ownFits
      have moved : form.tokens.length = own.tokens.length := by
        have index := congrArg (fun next => next.stream.index) same
        have toForm : (session.past form).stream.index = _ := TokenStream.index_pass front
        have toOwn : (session.past own).stream.index = _ := TokenStream.index_pass ownFront
        omega
      have rest := inductionHypothesis later (same ▸ ownLater) registered
        (by rw [same]; exact stops)
      rw [programTokens_cons, programTokens_cons, List.length_append, List.length_append, moved]
      exact Nat.add_le_add_left rest _

/-! ### What a run completes -/

/-- What a run came to behind the statements it completed. -/
def Ended (session : Session) (program : List Form) :
    Except Diagnosis (List Statement) × Session → Prop
  | (.ok checked, last) =>
    program.map Form.statement = checked ∧ session = last ∧
      session.current.kind = .endOfInput
  | (.error diagnosis, last) =>
    session.current.kind ≠ .endOfInput ∧ Fails Step.statement session diagnosis last

/-- A run completes some statements, and then the input ends or a statement fails. -/
theorem exists_completed (registered : session.productions = grammarProductions) :
    ∃ program, session.Completes program ∧
      (session.pastAll program).Ended program session.statements := by
  fun_induction Session.statements session with
  | case1 session more diagnosis after failed =>
    exact ⟨[], ⟨List.nil_prefix, trivial⟩, hasTokens_iff.mp more, failed⟩
  | case2 session more statement after passed rest final later inductionHypothesis =>
    obtain ⟨form, front, fits, rfl, rfl⟩ := exists_form_of_yields registered passed
    obtain ⟨program, completes, ends⟩ := inductionHypothesis registered
    rw [later] at ends
    obtain ⟨checks, reached, ended⟩ := ends
    exact ⟨form :: program, completes_cons_iff.mpr ⟨front, fits, completes⟩,
      congrArg (form.statement :: ·) checks, reached, ended⟩
  | case3 session more statement after passed diagnosis final later inductionHypothesis =>
    obtain ⟨form, front, fits, rfl, rfl⟩ := exists_form_of_yields registered passed
    obtain ⟨program, completes, ends⟩ := inductionHypothesis registered
    rw [later] at ends
    exact ⟨form :: program, completes_cons_iff.mpr ⟨front, fits, completes⟩, ends⟩
  | case4 session none =>
    exact ⟨[], ⟨List.nil_prefix, trivial⟩, rfl, rfl, not_hasTokens_iff.mp none⟩

end Session

/-! ### The longest front that is accepted -/

/-- The tokens that a run reads: the list, closed by an end of input if it was not. -/
def closedTokens (tokens : List Token) (file : String) : List Token :=
  (TokenStream.ofList tokens file).toList

/-- A list that was not closed gets an end of input behind its last token, or at the start of the
file if it has none. -/
theorem closedTokens_eq (tokens : List Token) (file : String) :
    closedTokens tokens file =
      if tokens.getLast?.map Token.kind = some .endOfInput then tokens
      else tokens ++ [Token.endOfInput
        ((tokens.getLast?.map fun last => last.span.stop).getD ⟨1, 1, file⟩)] := by
  rw [closedTokens, TokenStream.toList_ofList]
  split
  · rfl
  · rename_i notClosed
    refine congrArg (tokens ++ [·]) ?_
    unfold TokenStream.ofList
    cases found : tokens.getLast? with
    | none => rfl
    | some last =>
      have other : last.kind ≠ .endOfInput := fun ended =>
        notClosed (by rw [found, Option.map_some, ended])
      simp only [if_neg other]
      rfl

/-- The first `count` tokens are those of complete statements, and are accepted on their own. -/
def AcceptedAlone (tokens : List Token) (file : String) (count : Nat) : Prop :=
  (∃ program, programTokens program = tokens.take count) ∧
    ∃ checked, (validate (tokens.take count) file).outcome = .ok checked

theorem noEnd_programTokens (program : List Form) : NoEnd (programTokens program) := by
  intro token member
  obtain ⟨form, -, among⟩ := List.mem_flatMap.mp member
  exact form.noEnd token among

/-- Tokens that are those of complete statements stand before their first end of input. -/
theorem beforeEnd_programTokens (program : List Form) :
    beforeEnd (programTokens program) = programTokens program :=
  List.takeWhile_eq_self_iff.mpr fun token member =>
    decide_eq_true (noEnd_programTokens program token member)

theorem acceptedAlone_iff {tokens : List Token} {file : String} {count : Nat} :
    AcceptedAlone tokens file count ↔
      ∃ program, programTokens program = tokens.take count ∧
        FitsFrom SymbolTable.empty program := by
  have registered := registerGrammar_productions (tokens.take count) file
  have ahead (program : List Form) (whole : programTokens program = tokens.take count) :
      beforeEnd (Session.start (tokens.take count) file).registerGrammar.stream.ahead =
        programTokens program := by
    rw [← beforeEnd_programTokens program, whole]
    exact beforeEnd_ahead_ofList (tokens.take count) file
  constructor
  · rintro ⟨⟨whole, complete⟩, checked, accepted⟩
    obtain ⟨program, read, fits, -⟩ := exists_program_of_statements registered
      (Prod.ext accepted rfl)
    exact ⟨program, read.trans ((ahead whole complete).trans complete), fits⟩
  · rintro ⟨program, whole, fits⟩
    exact ⟨⟨program, whole⟩, program.map Form.statement, congrArg Prod.fst
      (statements_of_program registered (ahead program whole).symm fits)⟩

/-- No token is passed before a run. -/
theorem passed_ofList (tokens : List Token) (file : String) :
    (TokenStream.ofList tokens file).passed = [] := by
  unfold TokenStream.ofList
  split
  · rfl
  · split <;> rfl

theorem toList_of_unread {stream : TokenStream} (unread : stream.passed = []) :
    stream.toList = stream.ahead ++ [stream.endToken] := by
  rw [TokenStream.toList, unread]
  rfl

/-- The token that closes a stream belongs to no program. -/
theorem programTokens_isPrefix {program : List Form} {stream : TokenStream}
    (unread : stream.passed = []) (front : programTokens program <+: stream.toList) :
    programTokens program <+: stream.ahead := by
  rw [toList_of_unread unread, List.prefix_concat_iff] at front
  rcases front with whole | inside
  · refine absurd rfl (noEnd_programTokens program stream.endToken ?_)
    rw [whole]
    exact List.mem_concat_self
  · exact inside

/-! ### The statements that a run completed -/

/-- The session behind the statements of a program with which a run over the tokens began. -/
def Session.behind (tokens : List Token) (file : String) (program : List Form) : Session :=
  (Session.start tokens file).registerGrammar.pastAll program

/-- The statements of the program are those that the run over the tokens has completed. -/
structure Completed (tokens : List Token) (file : String) (program : List Form) : Prop where
  completes : (Session.start tokens file).registerGrammar.Completes program
  ended : (Session.behind tokens file program).Ended program
    (Session.start tokens file).registerGrammar.statements

theorem exists_completed (tokens : List Token) (file : String) :
    ∃ program, Completed tokens file program := by
  obtain ⟨program, completes, ended⟩ :=
    Session.exists_completed (registerGrammar_productions tokens file)
  exact ⟨program, completes, ended⟩

namespace Completed

variable {tokens : List Token} {file : String} {program : List Form} {diagnosis : Diagnosis}

theorem productions_behind (tokens : List Token) (file : String) (program : List Form) :
    (Session.behind tokens file program).productions = grammarProductions :=
  (Session.productions_pastAll _ program).trans (registerGrammar_productions tokens file)

theorem toList_behind (tokens : List Token) (file : String) (program : List Form) :
    (Session.behind tokens file program).stream.toList = closedTokens tokens file := by
  rw [Session.behind, Session.stream_pastAll, TokenStream.toList_pass]
  rfl

theorem index_behind (completed : Completed tokens file program) :
    (Session.behind tokens file program).stream.index = (programTokens program).length := by
  have index : (TokenStream.ofList tokens file).index = 0 :=
    congrArg List.length (passed_ofList tokens file)
  rw [Session.behind, Session.stream_pastAll, TokenStream.index_pass completed.completes.front]
  exact (congrArg (· + _) index).trans (Nat.zero_add _)

/-- A run that succeeds ends behind the completed statements, where the input ends. -/
theorem session_of_ok {checked : List Statement} (completed : Completed tokens file program)
    (accepted : (validate tokens file).outcome = .ok checked) :
    program.map Form.statement = checked ∧
      (Session.behind tokens file program).current.kind = .endOfInput ∧
      (validate tokens file).session =
        { Session.behind tokens file program with phase := .done } := by
  have ended := completed.ended
  rw [show (Session.start tokens file).registerGrammar.statements = (.ok checked, _) from
    Prod.ext accepted rfl] at ended
  obtain ⟨checks, last, atEnd⟩ := ended
  refine ⟨checks, atEnd, ?_⟩
  rw [last]
  show Session.mk _ _ _ (finalPhase (validate tokens file).outcome) _ = _
  rw [accepted]
  rfl

/-- A run that succeeds has completed all tokens before the first end of input. -/
theorem programTokens_of_ok {checked : List Statement} (completed : Completed tokens file program)
    (accepted : (validate tokens file).outcome = .ok checked) :
    programTokens program = beforeEnd tokens := by
  obtain ⟨-, ended, -⟩ := completed.session_of_ok accepted
  obtain ⟨rest, shape⟩ := completed.completes.front
  have ahead : (Session.behind tokens file program).stream.ahead = rest := by
    rw [Session.behind, Session.stream_pastAll]
    show List.drop _ _ = _
    rw [← shape, List.drop_left]
  have before : beforeEnd rest = [] := ahead ▸ beforeEnd_eq_nil_iff.mpr ended
  have whole := beforeEnd_append (noEnd_programTokens program) rest
  rw [shape, before, List.append_nil] at whole
  exact whole.symm.trans (beforeEnd_ahead_ofList tokens file)

/-- A run that fails ends in the statement behind the completed ones. -/
theorem session_of_error (completed : Completed tokens file program)
    (failed : (validate tokens file).outcome = .error diagnosis) :
    (Session.behind tokens file program).current.kind ≠ .endOfInput ∧
      ∃ last, Fails statement (Session.behind tokens file program) diagnosis last ∧
        (validate tokens file).session = { last with phase := .failed } := by
  have ended := completed.ended
  rw [show (Session.start tokens file).registerGrammar.statements = (.error diagnosis, _) from
    Prod.ext failed rfl] at ended
  refine ⟨ended.1, _, ended.2, ?_⟩
  show Session.mk _ _ _ (finalPhase (validate tokens file).outcome) _ = _
  rw [failed]
  rfl

/-- Whatever came of the run, the tokens are as they were, and no statement that was not completed
has declared anything. -/
theorem session_cases (completed : Completed tokens file program) :
    (∃ count, (validate tokens file).session.stream =
      (Session.behind tokens file program).stream.pass count) ∧
    (validate tokens file).session.symbols = (Session.behind tokens file program).symbols := by
  cases outcome : (validate tokens file).outcome with
  | ok checked =>
    rw [(completed.session_of_ok outcome).2.2]
    exact ⟨⟨0, rfl⟩, rfl⟩
  | error diagnosis =>
    obtain ⟨-, last, failed, left⟩ := completed.session_of_error outcome
    rw [left]
    rcases fails_statement_cases (productions_behind tokens file program) failed with
      ⟨count, rfl, -⟩ | ⟨header, -, count, rfl, -⟩
    · exact ⟨⟨count, rfl⟩, rfl⟩
    · exact ⟨⟨_, TokenStream.pass_pass _ header.tokens.length count⟩, rfl⟩

theorem stops (completed : Completed tokens file program) :
    (Session.behind tokens file program).Stops := by
  cases outcome : (validate tokens file).outcome with
  | ok checked => exact Session.stops_of_end (completed.session_of_ok outcome).2.1
  | error diagnosis =>
    obtain ⟨-, last, failed, -⟩ := completed.session_of_error outcome
    exact Session.stops_of_fails (productions_behind tokens file program) failed

/-- The tokens read are those of the completed statements, and those that were passed behind
them. -/
theorem take_index (completed : Completed tokens file program) {count : Nat}
    (moved : (validate tokens file).session.stream =
      (Session.behind tokens file program).stream.pass count) :
    (closedTokens tokens file).take (validate tokens file).session.stream.index =
      programTokens program ++
        (Session.behind tokens file program).stream.ahead.take count := by
  have front := List.prefix_iff_eq_take.mp completed.completes.front
  have unread := passed_ofList tokens file
  rw [← toList_behind tokens file program, ← TokenStream.toList_pass _ count, ← moved,
    TokenStream.take_index, moved, Session.behind, Session.stream_pastAll, TokenStream.pass_pass]
  show ((_ : List Token).reverse ++ (TokenStream.ofList tokens file).passed).reverse = _
  rw [unread, List.append_nil, List.reverse_reverse, List.take_add, ← front]
  rfl

theorem isPrefix (completed : Completed tokens file program) :
    programTokens program <+: closedTokens tokens file := by
  rw [closedTokens, toList_of_unread (passed_ofList tokens file)]
  exact completed.completes.front.trans (List.prefix_append _ _)

/-- The completed statements are the longest front of the tokens read that is accepted on its
own. -/
theorem isGreatest (completed : Completed tokens file program) :
    IsGreatest
      {count | count ≤ (validate tokens file).session.stream.index ∧
        AcceptedAlone (closedTokens tokens file) file count} (programTokens program).length := by
  have unread := passed_ofList tokens file
  have closed : closedTokens tokens file = _ := toList_of_unread unread
  constructor
  · refine ⟨?_, acceptedAlone_iff.mpr ⟨program, ?_, completed.completes.fits⟩⟩
    · obtain ⟨⟨count, moved⟩, -⟩ := completed.session_cases
      rw [moved, TokenStream.index_pass_take, completed.index_behind]
      exact Nat.le_add_right _ _
    · exact List.prefix_iff_eq_take.mp completed.isPrefix
  · rintro count ⟨-, accepted⟩
    obtain ⟨other, whole, fits⟩ := acceptedAlone_iff.mp accepted
    have front : programTokens other <+: (TokenStream.ofList tokens file).ahead :=
      programTokens_isPrefix unread (whole ▸ List.take_prefix count _)
    have length : count = (programTokens other).length := by
      have inside := front.length_le
      rw [whole, closed, List.length_take, List.length_append, List.length_singleton] at inside ⊢
      omega
    rw [length]
    exact Session.Completes.length_le ⟨front, fits⟩ completed.completes
      (registerGrammar_productions tokens file) completed.stops

end Completed

/-- A run changes none of its tokens. -/
theorem toList_validate (tokens : List Token) (file : String) :
    (validate tokens file).session.stream.toList = closedTokens tokens file := by
  obtain ⟨program, completed⟩ := exists_completed tokens file
  obtain ⟨⟨count, moved⟩, -⟩ := completed.session_cases
  rw [moved, TokenStream.toList_pass, Completed.toList_behind]

theorem getElem?_closedTokens_index (tokens : List Token) (file : String) :
    (closedTokens tokens file)[(validate tokens file).session.stream.index]? =
      some (validate tokens file).session.current := by
  rw [← toList_validate]
  exact TokenStream.getElem?_index _

/-! ### A program that is rejected -/

/-- A token of one character. -/
def Token.brief (kind : TokenKind) (value : String) (line column : UInt32) : Token :=
  ⟨kind, value, ⟨⟨line, column, "shell"⟩, ⟨line, column + 1, "shell"⟩⟩⟩

/-- The tokens `x : integer ; If ( x < 1 ) y :` on three lines: a conditional is begun on the
second, and in its body, on the third, a declaration. -/
def guardedDeclaration : List Token :=
  [.brief .identifier "x" 1 1, .brief .colon ":" 1 2, ⟨.integerWord, "integer",
      ⟨⟨1, 3, "shell"⟩, ⟨1, 10, "shell"⟩⟩⟩, .brief .semicolon ";" 1 10,
    ⟨.ifWord, "If", ⟨⟨2, 1, "shell"⟩, ⟨2, 3, "shell"⟩⟩⟩, .brief .openParen "(" 2 3,
    .brief .identifier "x" 2 4, .brief .less "<" 2 5, .brief .integerLiteral "1" 2 6,
    .brief .closeParen ")" 2 7, .brief .identifier "y" 3 1, .brief .colon ":" 3 2]

theorem validate_guardedDeclaration :
    (validate guardedDeclaration "shell").outcome =
      .error ⟨.unexpectedTokenDetailed "y" "declarations are not allowed in an If body",
        ⟨3, 1, "shell"⟩⟩ ∧
      (validate guardedDeclaration "shell").session.stream.index = 10 := by
  decide +kernel

end HLang
