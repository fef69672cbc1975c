/-
This file says what a step leaves as it was, whatever session it begins in. The mark is moved by
every step, and the table is changed by declarations alone, which add one variable when they are
complete. The phase and the start of the statement being checked are changed in one place: where the
body of a conditional is entered. A conditional enters its body behind a whole header whose
variables are declared, and not otherwise; from then on the phase tells whether the body was left
again.

The productions below the body share one frame, `Stays`, that passes from the parts of a step to the
whole. A conditional is split at its header, so what it changes is what its body changes.
-/

import HLang.Proofs.Session.Branches
import HLang.Proofs.Session.Moves

namespace HLang.Step

open Grammar

variable {Value First Second : Type} {session after entry : Session} {diagnosis : Diagnosis}

/-! ### Steps that enter no body -/

/-- Whether it succeeds or fails, the step has changed nothing but the mark and the table. -/
def Stays (step : Step Value) : Prop :=
  ∀ session, ∃ stream symbols,
    (step session).2 = { session with stream := stream, symbols := symbols }

theorem Reads.stays {step : Step Value} (reads : Reads step) : Stays step := by
  intro session
  obtain ⟨count, moved, -⟩ := reads session
  exact ⟨_, _, moved⟩

theorem Stays.bind {first : Step First} {second : First → Step Second} (firstStays : Stays first)
    (secondStays : ∀ value, Stays (second value)) : Stays (first >>= second) := by
  intro session
  have moved := firstStays session
  rw [bind_run]
  rcases run : first session with ⟨diagnosis | value, between⟩ <;> rw [run] at moved
  · exact moved
  · obtain ⟨stream, symbols, rfl⟩ := moved
    exact secondStays value _

theorem stays_declare (name : String) (type : ScalarType) : Stays (declare name type) := by
  intro session
  rw [declare_run]
  split
  · exact ⟨_, _, rfl⟩
  · exact ⟨session.stream, session.symbols, rfl⟩

theorem stays_declaration : Stays declaration :=
  reads_opening.stays.bind fun opening => (reads_expect _).stays.bind fun name =>
    (reads_expect _).stays.bind fun _ => reads_typeName.stays.bind fun type =>
    reads_expectSemicolon.stays.bind fun _ => (stays_declare name.value type).bind fun _ =>
    (reads_close .declaration opening).stays

theorem stays_identifierStatement : Stays identifierStatement := by
  refine reads_get.stays.bind fun session => ?_
  split
  · exact stays_declaration
  · exact reads_assignment.stays
  · exact (reads_next.bind fun _ => reads_refuse _).stays

theorem stays_guarded : Stays guarded := by
  refine reads_get.stays.bind fun session => ?_
  split
  · split
    · exact (reads_fail _).stays
    · exact stays_identifierStatement
  · exact reads_output.stays
  · exact (reads_fail _).stays
  · exact (reads_refuse _).stays

theorem stays_alone {step : Step Clause} (stays : Stays step) : Stays (alone step) :=
  stays.bind fun _ => (reads_pure _).stays

/-! ### Headers -/

/-- A conditional up to its body. -/
def header : Step Unit := do
  let _ ← expect .ifWord
  let _ ← expect .openParen
  condition
  let _ ← expect .closeParen
  return ()

theorem reads_header : Reads header :=
  (reads_expect _).bind fun _ => (reads_expect _).bind fun _ => reads_condition.bind fun _ =>
    (reads_expect _).bind fun _ => reads_pure _

/-- A header is passed exactly if it stands at the front, with its variables declared. -/
theorem yields_header_iff {value : Unit} :
    Yields header session value after ↔
      ∃ tree : Header, tree.tokens <+: session.stream.ahead ∧
        tree.condition.Fits session.symbols.scope ∧ session.pass tree.tokens.length = after := by
  unfold header
  simp only [yields_expect_bind_iff, ne_eq, reduceCtorEq, not_false_eq_true]
  constructor
  · rintro ⟨word, wordFront, left, leftFront, run⟩
    obtain ⟨nothing, between, compared, run⟩ := yields_bind_iff.mp run
    obtain ⟨condition, conditionFront, fits, rfl⟩ := yields_condition_iff.mp compared
    obtain ⟨right, rightFront, run⟩ := (yields_expect_bind_iff (by decide)).mp run
    obtain ⟨-, rfl⟩ := yields_pure_iff.mp run
    refine ⟨⟨word, left, condition, right⟩, ?_, fits, ?_⟩
    · exact framed_isPrefix_iff.mpr ⟨wordFront, leftFront, conditionFront, rightFront⟩
    · exact (passed_framed session word.token left.token right.token condition.tokens).symm
  · rintro ⟨⟨word, left, condition, right⟩, front, fits, rfl⟩
    obtain ⟨wordFront, leftFront, conditionFront, rightFront⟩ := framed_isPrefix_iff.mp front
    refine ⟨word, wordFront, left, leftFront, yields_bind_iff.mpr ⟨(), _,
      yields_condition_iff.mpr ⟨condition, conditionFront, fits, rfl⟩, ?_⟩⟩
    refine (yields_expect_bind_iff (by decide)).mpr ⟨right, rightFront, ?_⟩
    exact yields_pure_iff.mpr ⟨rfl, passed_framed session word.token left.token right.token _⟩

/-- A conditional is its header, and then its body. -/
theorem conditional_eq :
    conditional = (do
      let opening ← opening
      header
      let inner ← body
      let outer ← close .conditional opening
      return ⟨outer, some inner⟩ : Step Statement) := by
  unfold conditional header
  simp only [bind_assoc, pure_bind]

/-! ### Entering a body -/

/-- The production enters the body of a conditional in the session `entry`. -/
inductive Enters : Production → Session → Session → Prop where
  | body (session : Session) : Enters .body session session
  | conditional (session : Session) (tree : Header)
      (front : tree.tokens <+: session.stream.ahead)
      (fits : tree.condition.Fits session.symbols.scope) :
      Enters .conditional session (session.pass tree.tokens.length)

theorem enters_conditional_iff :
    Enters .conditional session entry ↔ Yields header session () entry := by
  rw [yields_header_iff]
  constructor
  · rintro (_ | ⟨_, tree, front, fits⟩)
    exact ⟨tree, front, fits, rfl⟩
  · rintro ⟨tree, front, fits, rfl⟩
    exact .conditional session tree front fits

/-- The phase behind the body of a conditional: that of a scan if the body was left, and that of a
body if it failed. -/
def phaseBehind : Except Diagnosis Value → Phase
  | .ok _ => .scanning
  | .error _ => .inConditionalBody

/-- The body of a conditional, which began in the session `entry`, is the statement that was checked
last, and the phase tells what came of it. -/
structure Left (entry : Session) (run : Except Diagnosis Value × Session) : Prop where
  productions : run.2.productions = entry.productions
  phase : run.2.phase = phaseBehind run.1
  start : run.2.statementStart = entry.current.span.start

theorem left_body (entry : Session) : Left entry (body entry) := by
  have inner : body entry =
      (guarded >>= fun clause => enter .scanning >>= fun _ => pure clause) entry.enterBody := rfl
  have moved := stays_guarded entry.enterBody
  rw [inner, bind_run]
  rcases run : guarded entry.enterBody with ⟨diagnosis | clause, between⟩ <;> rw [run] at moved
  · obtain ⟨stream, symbols, rfl⟩ := moved
    exact ⟨rfl, rfl, rfl⟩
  · obtain ⟨stream, symbols, rfl⟩ := moved
    exact ⟨rfl, rfl, rfl⟩

/-- What only looks at the body behind it leaves the session as the body does. -/
theorem Left.bind {first : Step First} {second : First → Step Second}
    (left : Left entry (first session))
    (looks : ∀ value between, ∃ result, Yields (second value) between result between) :
    Left entry ((first >>= second) session) := by
  obtain ⟨productions, phase, start⟩ := left
  rw [bind_run]
  rcases run : first session with ⟨diagnosis | value, between⟩ <;>
    rw [run] at productions phase start
  · exact ⟨productions, phase, start⟩
  · obtain ⟨result, yields⟩ := looks value between
    show Left entry (second value between)
    rw [show second value between = (.ok result, between) from yields]
    exact ⟨productions, phase, start⟩

theorem left_alone_body (entry : Session) : Left entry (alone body entry) :=
  (left_body entry).bind fun clause _ => ⟨clause.alone, rfl⟩

/-- Behind its header, a conditional leaves what its body leaves. -/
theorem left_conditional (entered : Enters .conditional session entry) :
    Left entry (conditional session) := by
  rw [conditional_eq, (yields_opening session).bind_run,
    (enters_conditional_iff.mp entered).bind_run]
  exact (left_body entry).bind fun inner between => ⟨⟨_, some inner⟩, rfl⟩

/-- In front of its body, a conditional has only read. -/
theorem stays_conditional_of_outside (outside : ∀ entry, ¬ Enters .conditional session entry) :
    ∃ stream symbols,
      (conditional session).2 = { session with stream := stream, symbols := symbols } := by
  rw [conditional_eq, (yields_opening session).bind_run, bind_run]
  have moved := reads_header.stays session
  rcases run : header session with ⟨diagnosis | nothing, between⟩
  · rw [run] at moved
    exact moved
  · -- A header that succeeds would have entered the body.
    exact absurd (enters_conditional_iff.mpr run) (outside between)

/-! ### The frame of a production -/

/-- What a production that begins in the session leaves as it was, and what it changes. -/
structure Framed (production : Production) (session : Session)
    (run : Except Diagnosis Statement × Session) : Prop where
  tokens : run.2.stream.toList = session.stream.toList
  productions : run.2.productions = session.productions
  /-- A statement that fails declares nothing. -/
  undeclared : ∀ diagnosis, run.1 = .error diagnosis → run.2.symbols = session.symbols
  /-- A declaration that was checked adds its variable, which is new. -/
  declared : ∀ checked, run.1 = .ok checked → checked.kind = .declaration →
    ∃ tree : Declaration, tree.tokens <+: session.stream.ahead ∧
      session.symbols.find? tree.name.token.value = none ∧
      run.2.symbols = ⟨(tree.name.token.value, tree.word.type) :: session.symbols.entries⟩
  /-- Any other statement adds none. -/
  other : ∀ checked, run.1 = .ok checked → checked.kind ≠ .declaration →
    run.2.symbols = session.symbols
  entered : ∀ entry, Enters production session entry →
    run.2.phase = phaseBehind run.1 ∧ run.2.statementStart = entry.current.span.start
  outside : (∀ entry, ¬ Enters production session entry) →
    run.2.phase = session.phase ∧ run.2.statementStart = session.statementStart

/-- Nothing but the mark has moved. -/
structure OnlyMoves (session after : Session) : Prop where
  tokens : after.stream.toList = session.stream.toList
  productions : after.productions = session.productions
  symbols : after.symbols = session.symbols
  phase : after.phase = session.phase
  start : after.statementStart = session.statementStart

theorem Reads.onlyMoves {step : Step Value} (reads : Reads step) (session : Session) :
    OnlyMoves session (step session).2 := by
  obtain ⟨count, moved, -⟩ := reads session
  rw [moved]
  exact ⟨TokenStream.toList_pass session.stream count, rfl, rfl, rfl, rfl⟩

theorem eq_of_fails_expectOr {kind : TokenKind} {otherwise : Session → Diagnosis}
    (failed : Fails (expectOr kind otherwise) session diagnosis after) : after = session := by
  unfold Fails at failed
  rw [expectOr_run] at failed
  split at failed
  · exact absurd failed.symm error_ne_ok
  · exact (error_eq_error_iff.mp failed).2.symm

variable {production : Production}

theorem left_of_enters (entered : Enters production session entry) :
    Left entry (follow production session) := by
  cases production with
  | body =>
    cases entered
    exact left_alone_body session
  | conditional => exact left_conditional entered
  | _ => cases entered

theorem stays_of_outside (outside : ∀ entry, ¬ Enters production session entry) :
    ∃ stream symbols,
      (follow production session).2 = { session with stream := stream, symbols := symbols } := by
  cases production with
  | statement => exact (reads_refuse _).stays session
  | identifier => exact stays_alone stays_identifierStatement session
  | declaration => exact stays_alone stays_declaration session
  | assignment => exact stays_alone reads_assignment.stays session
  | output => exact stays_alone reads_output.stays session
  | conditional => exact stays_conditional_of_outside outside
  | body => exact absurd (.body session) (outside session)

theorem productions_follow (production : Production) (session : Session) :
    (follow production session).2.productions = session.productions := by
  by_cases enters : ∃ entry, Enters production session entry
  · obtain ⟨entry, entered⟩ := enters
    rw [(left_of_enters entered).productions]
    cases entered <;> rfl
  · obtain ⟨stream, symbols, moved⟩ := stays_of_outside (not_exists.mp enters)
    rw [moved]

theorem framed_follow (production : Production) (session : Session) :
    Framed production session (follow production session) := by
  have entered (entry : Session) (enters : Enters production session entry) :=
    left_of_enters enters
  have outside (none : ∀ entry, ¬ Enters production session entry) :
      (follow production session).2.phase = session.phase ∧
        (follow production session).2.statementStart = session.statementStart := by
    obtain ⟨stream, symbols, moved⟩ := stays_of_outside none
    rw [moved]
    exact ⟨rfl, rfl⟩
  -- What becomes of the table does not hang on a body: it is read off the form that was passed.
  refine ⟨?_, productions_follow production session, fun diagnosis failed => ?_,
    fun checked passed isDeclaration => ?_, fun checked passed isOther => ?_,
    fun entry enters => ⟨(entered entry enters).phase, (entered entry enters).start⟩, outside⟩
  · rcases run : follow production session with ⟨diagnosis | checked, after⟩
    · obtain ⟨⟨count, stream⟩, -⟩ := idles_of_fails_follow run
      rw [stream, TokenStream.toList_pass]
    · obtain ⟨form, -, passes⟩ := exists_form_of_follow run
      rw [passes.stream, TokenStream.toList_pass]
  · exact (idles_of_fails_follow (Prod.ext failed rfl)).symbols
  · obtain ⟨form, rfl, passes⟩ := exists_form_of_follow (Prod.ext passed rfl)
    obtain ⟨tree, rfl⟩ := form.kind_statement_iff.mp isDeclaration
    exact ⟨tree, passes.front, (declaration_fits_iff tree).mp passes.fits, passes.symbols⟩
  · obtain ⟨form, rfl, passes⟩ := exists_form_of_follow (Prod.ext passed rfl)
    rw [passes.symbols]
    cases form with
    | declaration tree => exact absurd rfl isOther
    | simple tree => rfl
    | conditional tree => rfl

/-- Whatever session it begins in, and at whichever token it fails, a production changes no more
than its frame allows, what it is made of only moves the mark, and a token that is not the expected
one leaves the whole session as it was. -/
theorem framed_steps (session : Session) :
    (∀ production, Framed production session (follow production session)) ∧
    OnlyMoves session (expression session).2 ∧ OnlyMoves session (operand session).2 ∧
    OnlyMoves session (condition session).2 ∧
    (∀ kind otherwise diagnosis after,
      Fails (expectOr kind otherwise) session diagnosis after → after = session) ∧
    (∀ kind diagnosis after, Fails (expect kind) session diagnosis after → after = session) ∧
    ∀ diagnosis after, Fails expectSemicolon session diagnosis after → after = session :=
  ⟨fun production => framed_follow production session, reads_expression.onlyMoves session,
    reads_operand.onlyMoves session, reads_condition.onlyMoves session,
    fun _ _ _ _ => eq_of_fails_expectOr, fun _ _ _ => eq_of_fails_expectOr,
    fun _ _ => eq_of_fails_expectOr⟩

end HLang.Step
