/-
This file says what an open session keeps, whatever is done with it. A session may be moved on by
any of its steps, in any order: tokens are passed, expected or looked for, variables declared,
productions registered and called where they were not meant to be, and each of these may fail half
way and be followed by others.

One move changes little: it passes some tokens, and it declares one variable if it reports a
declaration and none otherwise (`Effect`). So after any number of moves the tokens are those of the
start, the mark stands at one of them and has never moved back, a variable keeps its type, and the
table has one entry for each declaration that was reported.
-/

import HLang.Proofs.Run.Completed

namespace HLang

open Grammar Step

/-! ### Moves -/

/-- A move of an open session. A production that only says that there is a statement is not
registered for a kind of token: it would choose itself again. -/
inductive Move where
  | advance
  | expect (kind : TokenKind)
  | expectOr (kind : TokenKind) (otherwise : Diagnosis)
  | expectSemicolon
  | beginStatement
  | enter (phase : Phase)
  | declare (name : String) (type : ScalarType) (position : Position)
  | registerGrammar
  | register (kind : TokenKind) (production : Production) (chooses : production ≠ .statement)
  | expression
  | operand
  | condition
  | produce (production : Production)

/-- What a move that succeeds reports. -/
inductive Report where
  | done
  | declared
  | token (token : Token)
  | type (type : ScalarType)
  | statement (statement : Statement)

/-- Whether a variable was declared, by itself or by a statement that is a declaration. -/
def Report.declares : Report → Bool
  | .declared => true
  | .statement checked => checked.kind == .declaration
  | .done | .token _ | .type _ => false

/-- The outcome of a move that has declared a variable. -/
def declaresOutcome : Except Diagnosis Report → Bool
  | .ok report => report.declares
  | .error _ => false

namespace Step

/-- Declares a variable; a duplicate is reported at the given position. -/
def declareAt (name : String) (type : ScalarType) (position : Position) : Step Unit := do
  let session ← get
  match session.symbols.declare name type position with
  | .ok symbols => set { session with symbols := symbols }
  | .error diagnosis => throw diagnosis

/-- A step with what it reports. -/
def reporting {Value : Type} (tell : Value → Report) (step : Step Value) : Step Report := do
  let value ← step
  return tell value

end Step

/-- The step that a move takes. -/
def Move.step : Move → Step Report
  | .advance => reporting .token next
  | .expect kind => reporting .token (Step.expect kind)
  | .expectOr kind otherwise => reporting .token (Step.expectOr kind fun _ => otherwise)
  | .expectSemicolon => reporting .token Step.expectSemicolon
  | .beginStatement => reporting (fun _ => .done) Step.beginStatement
  | .enter phase => reporting (fun _ => .done) (Step.enter phase)
  | .declare name type position => reporting (fun _ => .declared) (declareAt name type position)
  | .registerGrammar => reporting (fun _ => .done) (modify Session.registerGrammar)
  | .register kind production _ =>
    reporting (fun _ => .done) (modify fun session => session.register kind production)
  | .expression => reporting .type Step.expression
  | .operand => reporting .type Step.operand
  | .condition => reporting (fun _ => .done) Step.condition
  | .produce production => reporting .statement (Step.produce production)

/-- Makes the moves, one after the other, whether they succeed or fail. -/
def Session.run (session : Session) : List Move → List (Except Diagnosis Report) × Session
  | [] => ([], session)
  | move :: more =>
    let (outcome, after) := move.step session
    let (outcomes, last) := after.run more
    (outcome :: outcomes, last)

/-! ### What a production leaves behind -/

theorem Grammar.Form.kind_statement_iff (form : Form) :
    form.statement.kind = .declaration ↔ ∃ tree, form = .declaration tree := by
  cases form with
  | declaration tree => exact iff_of_true rfl ⟨tree, rfl⟩
  | simple tree => cases tree <;> exact iff_of_false (fun same => nomatch same) (by simp)
  | conditional tree => exact iff_of_false (fun same => nomatch same) (by simp)

namespace Step

variable {session after : Session} {diagnosis : Diagnosis} {production : Production}
  {value : Statement}

/-- The session has passed the statement tree, and added its variable if it is a declaration. -/
structure Passes (session : Session) (form : Form) (after : Session) : Prop where
  front : form.tokens <+: session.stream.ahead
  fits : form.Fits session.symbols.scope
  stream : after.stream = session.stream.pass form.tokens.length
  symbols : after.symbols = form.extend session.symbols

/-- The session has passed some tokens, and added no variable. -/
structure Idles (session after : Session) : Prop where
  stream : ∃ count, after.stream = session.stream.pass count
  symbols : after.symbols = session.symbols

theorem Undoes.idles {Value : Type} {step : Step Value} (undoes : Undoes step)
    (failed : Fails step session diagnosis after) : Idles session after := by
  obtain ⟨count, rfl, -⟩ := undoes _ _ _ failed
  exact ⟨⟨count, rfl⟩, rfl⟩

theorem Reads.idles {Value : Type} {step : Step Value} (reads : Reads step) (session : Session) :
    Idles session (step session).2 := by
  obtain ⟨count, moved, -⟩ := reads session
  rw [moved]
  exact ⟨⟨count, rfl⟩, rfl⟩

/-- A production that succeeds has passed a statement tree that fits, wherever it was called. -/
theorem exists_form_of_follow (run : Yields (follow production) session value after) :
    ∃ form : Form, form.statement = value ∧ Passes session form after := by
  have declared {clause : Clause} (inner : Yields declaration session clause after) :
      ∃ form : Form, form.statement = clause.alone ∧ Passes session form after := by
    obtain ⟨tree, front, fresh, rfl, rfl⟩ := yields_declaration_iff.mp inner
    exact ⟨.declaration tree, rfl, front, (declaration_fits_iff tree).mpr fresh, rfl, rfl⟩
  have assigned {clause : Clause} (inner : Yields assignment session clause after) :
      ∃ form : Form, form.statement = clause.alone ∧ Passes session form after := by
    obtain ⟨tree, front, fits, rfl, rfl⟩ := yields_assignment_iff.mp inner
    exact ⟨.simple (.assignment tree), rfl, front, fits, rfl, rfl⟩
  cases production with
  | statement => exact absurd run not_yields_refuse
  | identifier =>
    obtain ⟨clause, inner, rfl⟩ := yields_alone_iff.mp run
    rcases yields_identifierStatement_iff.mp inner with inner | inner
    · exact declared inner
    · exact assigned inner
  | declaration =>
    obtain ⟨clause, inner, rfl⟩ := yields_alone_iff.mp run
    exact declared inner
  | assignment =>
    obtain ⟨clause, inner, rfl⟩ := yields_alone_iff.mp run
    exact assigned inner
  | output =>
    obtain ⟨clause, inner, rfl⟩ := yields_alone_iff.mp run
    obtain ⟨tree, front, fits, rfl, rfl⟩ := yields_output_iff.mp inner
    exact ⟨.simple (.output tree), rfl, front, fits, rfl, rfl⟩
  | conditional =>
    obtain ⟨tree, front, fits, rfl, rfl⟩ := yields_conditional_iff.mp run
    exact ⟨.conditional tree, rfl, front, fits, rfl, rfl⟩
  | body =>
    obtain ⟨clause, inner, rfl⟩ := yields_alone_iff.mp run
    obtain ⟨tree, front, fits, rfl, rfl⟩ := yields_body_iff.mp inner
    exact ⟨.simple tree, rfl, front, fits, rfl, rfl⟩

/-- A body that fails has been entered, and has added no variable. -/
theorem idles_of_fails_body (failed : Fails body session diagnosis after) :
    Idles session after := by
  obtain ⟨count, rfl, -⟩ := exists_count_of_fails_body failed
  exact ⟨⟨count, rfl⟩, rfl⟩

/-- A production that fails has added no variable, wherever it was called. -/
theorem idles_of_fails_follow (failed : Fails (follow production) session diagnosis after) :
    Idles session after := by
  cases production with
  | statement => exact (reads_refuse _).undoes.idles failed
  | identifier => exact (undoes_alone undoes_identifierStatement).idles failed
  | declaration => exact (undoes_alone undoes_declaration).idles failed
  | assignment => exact (undoes_alone reads_assignment.undoes).idles failed
  | output => exact (undoes_alone reads_output.undoes).idles failed
  | conditional =>
    rcases fails_conditional_cases failed with ⟨count, rfl, -⟩ | ⟨header, -, inside⟩
    · exact ⟨⟨count, rfl⟩, rfl⟩
    · obtain ⟨⟨count, stream⟩, symbols⟩ := idles_of_fails_body inside
      exact ⟨⟨_, stream.trans (TokenStream.pass_pass _ _ count)⟩, symbols⟩
  | body =>
    rcases fails_bind_iff.mp failed with inside | ⟨clause, between, -, done⟩
    · exact idles_of_fails_body inside
    · exact nomatch congrArg Prod.fst done

/-- Whichever production is registered for the current token, a statement is checked by one or
refused. -/
theorem exists_follow_of_produce (production : Production) (session : Session) :
    ∃ chosen begun, begun.stream = session.stream ∧ begun.symbols = session.symbols ∧
      produce production session = follow chosen begun := by
  by_cases chooses : production = .statement
  · rw [chooses]
    have run : ∃ chosen, statement session = follow chosen session.beginStatement := by
      have begun : Yields beginStatement session () session.beginStatement := rfl
      unfold statement
      rw [begun.bind_run, get_bind_run]
      cases session.beginStatement.productions session.beginStatement.current.kind with
      | some registered => exact ⟨registered, rfl⟩
      | none => exact ⟨.statement, rfl⟩
    obtain ⟨chosen, same⟩ := run
    exact ⟨chosen, session.beginStatement, rfl, rfl, same⟩
  · refine ⟨production, session, rfl, rfl, ?_⟩
    cases production with
    | statement => exact absurd rfl chooses
    | _ => rfl

end Step

/-! ### What one move changes -/

/-- A move has passed some tokens. It has added one variable, which was not declared, if it reports
a declaration, and none otherwise. -/
structure Effect (session : Session) (run : Except Diagnosis Report × Session) : Prop where
  stream : ∃ count, run.2.stream = session.stream.pass count
  grows : declaresOutcome run.1 = true → ∃ name type, session.symbols.find? name = none ∧
    run.2.symbols = ⟨(name, type) :: session.symbols.entries⟩
  stays : declaresOutcome run.1 = false → run.2.symbols = session.symbols

namespace Step

variable {Value : Type} {session : Session} {step : Step Value} {tell : Value → Report}

theorem Idles.effect {run : Except Diagnosis Report × Session} (idles : Idles session run.2)
    (quiet : declaresOutcome run.1 = false) : Effect session run :=
  ⟨idles.stream, fun declares => absurd (quiet.symm.trans declares) Bool.false_ne_true,
    fun _ => idles.symbols⟩

theorem reporting_run (tell : Value → Report) (step : Step Value) (session : Session) :
    reporting tell step session =
      match step session with
      | (.ok value, after) => (.ok (tell value), after)
      | (.error diagnosis, after) => (.error diagnosis, after) :=
  bind_run step _ session

/-- A step that adds no variable, and does not report to have. -/
theorem effect_of_idles (idles : Idles session (step session).2)
    (quiet : ∀ value, (tell value).declares = false) :
    Effect session (reporting tell step session) := by
  rw [reporting_run]
  rcases run : step session with ⟨diagnosis | value, after⟩
  · rw [run] at idles
    exact Idles.effect idles rfl
  · rw [run] at idles
    exact Idles.effect idles (quiet value)

theorem effect_of_reads (reads : Reads step) (quiet : ∀ value, (tell value).declares = false)
    (session : Session) : Effect session (reporting tell step session) :=
  effect_of_idles (reads.idles session) quiet

theorem declareAt_run (name : String) (type : ScalarType) (position : Position)
    (session : Session) :
    declareAt name type position session =
      match session.symbols.declare name type position with
      | .ok symbols => (.ok (), { session with symbols := symbols })
      | .error diagnosis => (.error diagnosis, session) := by
  unfold declareAt
  rw [get_bind_run]
  cases session.symbols.declare name type position <;> rfl

/-- A declaration fails exactly if its variable is declared already, and then changes nothing. -/
theorem fails_declareAt_iff {name : String} {type : ScalarType} {position : Position}
    {diagnosis : Diagnosis} {after : Session} :
    Fails (declareAt name type position) session diagnosis after ↔
      (∃ known, session.symbols.find? name = some known) ∧
        diagnosis = ⟨.duplicateDeclaration name, position⟩ ∧ after = session := by
  rw [← Option.isSome_iff_exists]
  unfold Fails
  rw [declareAt_run]
  cases declared : session.symbols.declare name type position with
  | ok symbols =>
    refine ⟨fun failed => absurd failed.symm error_ne_ok, fun ⟨known, _⟩ => ?_⟩
    have refused : session.symbols.declare name type position =
        .error ⟨.duplicateDeclaration name, position⟩ :=
      SymbolTable.declare_eq_error_iff.mpr ⟨known, rfl⟩
    exact nomatch declared.symm.trans refused
  | error refused =>
    obtain ⟨known, rfl⟩ := SymbolTable.declare_eq_error_iff.mp declared
    rw [error_eq_error_iff, eq_comm (a := session), eq_comm (b := diagnosis)]
    exact (and_iff_right known).symm

theorem effect_declareAt (name : String) (type : ScalarType) (position : Position)
    (session : Session) :
    Effect session (reporting (fun _ => .declared) (declareAt name type position) session) := by
  rw [reporting_run]
  rcases run : declareAt name type position session with ⟨diagnosis | nothing, after⟩
  · obtain ⟨-, -, rfl⟩ := fails_declareAt_iff.mp run
    exact Idles.effect ⟨⟨0, rfl⟩, rfl⟩ rfl
  · rw [declareAt_run] at run
    unfold SymbolTable.declare at run
    cases known : session.symbols.find? name with
    | some found =>
      rw [known, Option.isSome_some, if_pos rfl] at run
      exact absurd run error_ne_ok
    | none =>
      rw [known, Option.isSome_none, if_neg Bool.false_ne_true] at run
      obtain ⟨-, rfl⟩ := ok_eq_ok_iff.mp run
      exact ⟨⟨0, rfl⟩, fun _ => ⟨name, type, known, rfl⟩, fun quiet => nomatch quiet⟩

/-- A statement that was checked has added a variable exactly if it is a declaration. -/
theorem effect_produce (production : Production) (session : Session) :
    Effect session (reporting .statement (produce production) session) := by
  obtain ⟨chosen, begun, stream, symbols, same⟩ := exists_follow_of_produce production session
  rw [reporting_run, same]
  rcases run : follow chosen begun with ⟨diagnosis | checked, after⟩
  · obtain ⟨passed, kept⟩ := idles_of_fails_follow run
    exact Idles.effect ⟨stream ▸ passed, kept.trans symbols⟩ rfl
  · obtain ⟨form, rfl, passes⟩ := exists_form_of_follow run
    have fits := passes.fits
    rw [symbols] at fits
    refine ⟨⟨form.tokens.length, by rw [← stream]; exact passes.stream⟩, fun declares => ?_,
      fun quiet => ?_⟩
    · obtain ⟨tree, rfl⟩ := form.kind_statement_iff.mp (eq_of_beq declares)
      refine ⟨tree.name.token.value, tree.word.type, (declaration_fits_iff tree).mp fits, ?_⟩
      rw [← symbols]
      exact passes.symbols
    · have other := mt form.kind_statement_iff.mpr (ne_of_beq_false quiet)
      rw [← symbols]
      show after.symbols = begun.symbols
      rw [passes.symbols]
      cases form with
      | declaration tree => exact absurd ⟨tree, rfl⟩ other
      | simple tree => rfl
      | conditional tree => rfl

/-- The tokens that a checked statement counts were passed while it was checked, and those of its
body after some of them. -/
theorem index_add_tokens_of_produce {production : Production} {checked : Statement}
    {after : Session} (run : Yields (produce production) session checked after) :
    session.stream.index + checked.tokens = after.stream.index ∧
      ∀ body, checked.body = some body →
        ∃ first, session.stream.index ≤ first ∧ first + body.tokens = after.stream.index := by
  obtain ⟨chosen, begun, stream, -, same⟩ := exists_follow_of_produce production session
  obtain ⟨form, rfl, passes⟩ := exists_form_of_follow (same.symm.trans run)
  have moved : after.stream.index = session.stream.index + form.tokens.length := by
    rw [passes.stream, TokenStream.index_pass passes.front, stream]
  refine ⟨by rw [moved, form.tokens_statement], fun body guards => ?_⟩
  obtain ⟨first, whole⟩ := Form.tokens_body guards
  exact ⟨session.stream.index + first, Nat.le_add_right _ _, by omega⟩

end Step

/-- No move changes more than it reports. -/
theorem Move.effect_step (move : Move) (session : Session) :
    Effect session (move.step session) := by
  cases move with
  | advance => exact effect_of_reads reads_next (fun _ => rfl) session
  | expect kind => exact effect_of_reads (reads_expect kind) (fun _ => rfl) session
  | expectOr kind otherwise =>
    refine effect_of_idles ?_ fun _ => rfl
    rw [expectOr_run]
    split
    · exact ⟨⟨1, TokenStream.advance_eq_pass _⟩, rfl⟩
    · exact ⟨⟨0, rfl⟩, rfl⟩
  | expectSemicolon => exact effect_of_reads reads_expectSemicolon (fun _ => rfl) session
  | beginStatement => exact effect_of_idles ⟨⟨0, rfl⟩, rfl⟩ fun _ => rfl
  | enter phase => exact effect_of_idles ⟨⟨0, rfl⟩, rfl⟩ fun _ => rfl
  | declare name type position => exact effect_declareAt name type position session
  | registerGrammar => exact effect_of_idles ⟨⟨0, rfl⟩, rfl⟩ fun _ => rfl
  | register kind production _ => exact effect_of_idles ⟨⟨0, rfl⟩, rfl⟩ fun _ => rfl
  | expression => exact effect_of_reads reads_expression (fun _ => rfl) session
  | operand => exact effect_of_reads reads_operand (fun _ => rfl) session
  | condition => exact effect_of_reads reads_condition (fun _ => rfl) session
  | produce production => exact effect_produce production session

/-! ### What any number of moves keep -/

namespace Session

/-- Moves pass tokens, and change none. -/
theorem stream_run (session : Session) (moves : List Move) :
    ∃ count, (session.run moves).2.stream = session.stream.pass count := by
  induction moves generalizing session with
  | nil => exact ⟨0, rfl⟩
  | cons move more inductionHypothesis =>
    obtain ⟨count, moved⟩ := (move.effect_step session).stream
    obtain ⟨further, movedOn⟩ := inductionHypothesis (move.step session).2
    refine ⟨count + further, movedOn.trans ?_⟩
    rw [moved, TokenStream.pass_pass]

/-- A variable that is declared keeps its type. -/
theorem find?_run {session : Session} {name : String} {type : ScalarType}
    (found : session.symbols.find? name = some type) (moves : List Move) :
    (session.run moves).2.symbols.find? name = some type := by
  induction moves generalizing session with
  | nil => exact found
  | cons move more inductionHypothesis =>
    have effect := move.effect_step session
    have kept : (move.step session).2.symbols.find? name = some type → _ := inductionHypothesis
    refine kept ?_
    cases declares : declaresOutcome (move.step session).1 with
    | false => rw [effect.stays declares, found]
    | true =>
      obtain ⟨other, otherType, fresh, symbols⟩ := effect.grows declares
      rw [symbols, SymbolTable.find?_cons, if_neg, found]
      rintro rfl
      exact nomatch found.symm.trans fresh

/-- The table grows by one entry for each declaration that is reported. -/
theorem size_run (session : Session) (moves : List Move) :
    (session.run moves).2.symbols.size =
      (session.run moves).1.countP declaresOutcome + session.symbols.size := by
  induction moves generalizing session with
  | nil => exact (Nat.zero_add _).symm
  | cons move more inductionHypothesis =>
    have effect := move.effect_step session
    show ((move.step session).2.run more).2.symbols.size =
      ((move.step session).1 :: ((move.step session).2.run more).1).countP declaresOutcome + _
    rw [inductionHypothesis]
    cases declares : declaresOutcome (move.step session).1 with
    | false =>
      have other : ¬ declaresOutcome (move.step session).1 = true := by
        rw [declares]
        exact Bool.false_ne_true
      rw [effect.stays declares, List.countP_cons_of_neg other]
    | true =>
      obtain ⟨name, type, -, symbols⟩ := effect.grows declares
      rw [symbols, List.countP_cons_of_pos declares, SymbolTable.size, SymbolTable.size,
        List.length_cons]
      omega

end Session

namespace TokenStream

variable (stream : TokenStream)

theorem getLast?_toList : stream.toList.getLast? = some stream.endToken :=
  List.getLast?_concat

theorem index_lt_length : stream.index < stream.toList.length :=
  (List.getElem?_eq_some_iff.mp stream.getElem?_index).1

/-- Before the first token was passed, the token before the current one is the current one. -/
theorem getElem?_index_sub_one : stream.toList[stream.index - 1]? = some stream.previous := by
  cases shape : stream.passed with
  | nil =>
    have first : stream.previous = stream.current := by simp [previous, shape]
    have start : stream.index = 0 := by simp [index, shape]
    rw [first, start, Nat.zero_sub, ← start]
    exact stream.getElem?_index
  | cons token rest =>
    have last : stream.previous = token := by simp [previous, shape]
    have before : stream.index - 1 = rest.reverse.length := by simp [index, shape]
    rw [last, before]
    simp [toList, shape]

end TokenStream

/-- Whatever moves are made from the start of a list of tokens: the tokens stay the given ones, closed
by an end of input if they were not, the mark stands at one of them and does not move back, what a checked
statement counts has been passed, a variable keeps its type and cannot be declared again, and the
table has as many entries as declarations were reported. -/
theorem Session.run_start_invariant (tokens : List Token) (file : String) (moves : List Move) :
    let read :=
      if tokens.getLast?.map Token.kind = some .endOfInput then tokens
      else tokens ++ [Token.endOfInput
        ((tokens.getLast?.map fun last => last.span.stop).getD ⟨1, 1, file⟩)]
    let outcomes := ((Session.start tokens file).run moves).1
    let session := ((Session.start tokens file).run moves).2
    session.stream.toList = read ∧
      read.getLast?.map Token.kind = some .endOfInput ∧
      session.stream.index < read.length ∧
      read[session.stream.index]? = some session.current ∧
      read[session.stream.index - 1]? = some session.stream.previous ∧
      (∀ more, session.stream.index ≤ (session.run more).2.stream.index) ∧
      (∀ production checked after, Yields (produce production) session checked after →
        session.stream.index + checked.tokens = after.stream.index ∧
          ∀ body, checked.body = some body →
            ∃ first, session.stream.index ≤ first ∧
              first + body.tokens = after.stream.index) ∧
      (∀ name type, session.symbols.find? name = some type →
        ∀ more, (session.run more).2.symbols.find? name = some type) ∧
      (∀ name type position diagnosis after,
        Fails (declareAt name type position) session diagnosis after ↔
          (∃ known, session.symbols.find? name = some known) ∧
            diagnosis = ⟨.duplicateDeclaration name, position⟩ ∧ after = session) ∧
      session.symbols.size = outcomes.countP declaresOutcome := by
  intro read outcomes session
  have whole : session.stream.toList = read := by
    obtain ⟨count, moved⟩ := (Session.start tokens file).stream_run moves
    rw [show session.stream = _ from moved, TokenStream.toList_pass]
    exact closedTokens_eq tokens file
  refine ⟨whole, ?_, ?_, ?_, ?_, fun more => ?_, fun _ _ _ => index_add_tokens_of_produce,
    fun _ _ => find?_run, fun _ _ _ _ _ => fails_declareAt_iff, ?_⟩
  · rw [← whole, TokenStream.getLast?_toList]
    rfl
  · rw [← whole]
    exact session.stream.index_lt_length
  · rw [← whole]
    exact session.stream.getElem?_index
  · rw [← whole]
    exact session.stream.getElem?_index_sub_one
  · obtain ⟨count, moved⟩ := session.stream_run more
    rw [moved, TokenStream.index_pass_take]
    exact Nat.le_add_right _ _
  · exact size_run _ moves

end HLang
