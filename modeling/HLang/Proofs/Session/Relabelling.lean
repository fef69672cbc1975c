/-
This file replaces the names and the places in a token stream and follows what checking makes of it.
A step cannot tell the new labels from the old ones: it passes the same tokens, finds the same
variables and fails for the same cause, only with the new labels. So checking relabelled tokens
yields the relabelled outcome, as long as different names stay different.
-/

import HLang.Proofs.Session.Loops
import HLang.Proofs.Session.Passing

namespace HLang

/-! ### New labels -/

/-- How the names of variables and the places of tokens are replaced. Different names stay
different; different places need not. -/
structure Relabelling where
  name : String → String
  place : Position → Position
  apart : Function.Injective name

variable (labels : Relabelling)

/-- The text of a token of the given kind: only identifiers are names. -/
def Relabelling.word (kind : TokenKind) (text : String) : String :=
  if kind = .identifier then labels.name text else text

def Span.relabel (span : Span) : Span :=
  ⟨labels.place span.start, labels.place span.stop⟩

def Token.relabel (token : Token) : Token :=
  ⟨token.kind, labels.word token.kind token.value, token.span.relabel labels⟩

@[simp] theorem Token.kind_relabel (token : Token) : (token.relabel labels).kind = token.kind := rfl

theorem Token.value_relabel_identifier {token : Token} (kind : token.kind = .identifier) :
    (token.relabel labels).value = labels.name token.value :=
  if_pos kind

def TokenStream.relabel (stream : TokenStream) : TokenStream :=
  ⟨stream.passed.map (Token.relabel labels), stream.ahead.map (Token.relabel labels),
    stream.endValue, stream.endSpan.relabel labels⟩

def SymbolTable.relabel (table : SymbolTable) : SymbolTable :=
  ⟨table.entries.map fun entry => (labels.name entry.1, entry.2)⟩

def Session.relabel (session : Session) : Session :=
  { session with
    stream := session.stream.relabel labels
    symbols := session.symbols.relabel labels
    statementStart := labels.place session.statementStart }

/-- The fault with new names, if it is found at a token of the given kind. -/
def Fault.relabel (kind : TokenKind) : Fault → Fault
  | .unrecognisedToken token => .unrecognisedToken (labels.word kind token)
  | .unexpectedToken token => .unexpectedToken (labels.word kind token)
  | .unexpectedTokenDetailed token message =>
    .unexpectedTokenDetailed (labels.word kind token) message
  | .unexpectedEndOfInput expected => .unexpectedEndOfInput expected
  | .undeclaredIdentifier identifier => .undeclaredIdentifier (labels.name identifier)
  | .duplicateDeclaration identifier => .duplicateDeclaration (labels.name identifier)
  | .typeMismatch expected received => .typeMismatch expected received

def Diagnosis.relabel (kind : TokenKind) (diagnosis : Diagnosis) : Diagnosis :=
  ⟨diagnosis.fault.relabel labels kind, labels.place diagnosis.position⟩

def Clause.relabel (clause : Clause) : Clause :=
  { clause with span := clause.span.relabel labels }

def Statement.relabel (statement : Statement) : Statement :=
  ⟨statement.toClause.relabel labels, statement.body.map (Clause.relabel labels)⟩

def Step.Opening.relabel (opening : Step.Opening) : Step.Opening :=
  { opening with start := labels.place opening.start }

/-- An outcome with new labels, and the session in which it was reached. -/
def relabelRun {Value : Type} (carry : Value → Value) :
    Except Diagnosis Value × Session → Except Diagnosis Value × Session
  | (.ok value, after) => (.ok (carry value), after.relabel labels)
  | (.error diagnosis, after) =>
    (.error (diagnosis.relabel labels after.current.kind), after.relabel labels)

/-! ### What a session says of itself -/

namespace TokenStream

variable (stream : TokenStream)

theorem current_relabel : (stream.relabel labels).current = stream.current.relabel labels := by
  show ((stream.ahead.map (Token.relabel labels)).head?.getD _) = _
  unfold current
  cases stream.ahead <;> rfl

theorem advance_relabel : (stream.relabel labels).advance = stream.advance.relabel labels := by
  unfold advance
  cases shape : stream.ahead with
  | nil => simp only [relabel, shape, List.map_nil]
  | cons token rest => simp only [relabel, shape, List.map_cons]

theorem previous_relabel : (stream.relabel labels).previous = stream.previous.relabel labels := by
  unfold previous
  rw [current_relabel]
  show ((stream.passed.map (Token.relabel labels)).head?.getD _) = _
  cases stream.passed <;> rfl

/-- The stream of relabelled tokens, of which there is at least one: the token that closes the
stream is one of them, or stands where the last one ends. -/
theorem ofList_map_relabel {tokens : List Token} (notEmpty : tokens ≠ []) (file : String) :
    ofList (tokens.map (Token.relabel labels)) file = (ofList tokens file).relabel labels := by
  unfold ofList
  rw [List.getLast?_map, List.getLast?_eq_some_getLast notEmpty]
  show (if (tokens.getLast notEmpty).kind = .endOfInput then _ else _) = TokenStream.relabel labels
    (if (tokens.getLast notEmpty).kind = .endOfInput then _ else _)
  split
  · rename_i closed
    simp only [Token.relabel, Relabelling.word, closed, ← List.map_dropLast]
    rfl
  · rfl

end TokenStream

namespace Session

variable (session : Session)

theorem current_relabel : (session.relabel labels).current = session.current.relabel labels :=
  session.stream.current_relabel labels

theorem advance_relabel : (session.relabel labels).advance = session.advance.relabel labels :=
  congrArg (fun stream => { session.relabel labels with stream := stream })
    (session.stream.advance_relabel labels)

theorem productions_relabel : (session.relabel labels).productions = session.productions := rfl

theorem index_relabel : (session.relabel labels).stream.index = session.stream.index :=
  List.length_map _

theorem kindAt_relabel (distance : Nat) :
    (session.relabel labels).stream.kindAt distance = session.stream.kindAt distance := by
  show ((session.stream.ahead.map (Token.relabel labels))[distance]?.map Token.kind).getD _ = _
  rw [List.getElem?_map, Option.map_map]
  rfl

theorem start_map_relabel {tokens : List Token} (notEmpty : tokens ≠ []) (file : String) :
    start (tokens.map (Token.relabel labels)) file = (start tokens file).relabel labels := by
  simp only [start, TokenStream.ofList_map_relabel labels notEmpty, TokenStream.current_relabel]
  rfl

theorem unexpected_relabel (expected : String) : (session.relabel labels).unexpected expected =
    (session.unexpected expected).relabel labels session.current.kind := by
  unfold unexpected
  rw [current_relabel]
  generalize session.current = token
  obtain ⟨kind, value, span⟩ := token
  cases kind <;> rfl

theorem missingSemicolon_relabel : (session.relabel labels).missingSemicolon =
    session.missingSemicolon.relabel labels session.current.kind := by
  unfold missingSemicolon
  rw [current_relabel, unexpected_relabel]
  generalize session.current = token
  obtain ⟨kind, value, span⟩ := token
  cases kind <;> rfl

end Session

theorem SymbolTable.find?_relabel (table : SymbolTable) (name : String) :
    (table.relabel labels).find? (labels.name name) = table.find? name := by
  obtain ⟨entries⟩ := table
  show (entries.map fun entry => (labels.name entry.1, entry.2)).lookup (labels.name name) =
    entries.lookup name
  induction entries with
  | nil => rfl
  | cons entry rest inductionHypothesis =>
    rw [List.map_cons, List.lookup_cons, List.lookup_cons, inductionHypothesis]
    by_cases same : name = entry.1
    · rw [same, beq_self_eq_true, beq_self_eq_true]
    · rw [beq_false_of_ne same, beq_false_of_ne fun equal => same (labels.apart equal)]

/-! ### Steps under new labels -/

namespace Step

variable {labels : Relabelling} {Value First Second : Type} {session : Session}

/-- Begun in the session with new labels, the other step does what the step does in the session,
with new labels. -/
def Mirrors (labels : Relabelling) (carry : Value → Value) (step other : Step Value)
    (session : Session) : Prop :=
  other (session.relabel labels) = relabelRun labels carry (step session)

theorem mirrors_pure (carry : Value → Value) (value : Value) :
    Mirrors labels carry (pure value) (pure (carry value)) session :=
  rfl

theorem mirrors_throw {carry : Value → Value} {diagnosis other : Diagnosis}
    (same : other = diagnosis.relabel labels session.current.kind) :
    Mirrors labels carry (throw diagnosis) (throw other) session :=
  congrArg (fun given => (Except.error given, session.relabel labels)) same

theorem Mirrors.bind {keep : First → First} {carry : Second → Second} {first other : Step First}
    {second later : First → Step Second} (firstMirrors : Mirrors labels keep first other session)
    (secondMirrors : ∀ value between, Yields first session value between →
      Mirrors labels carry (second value) (later (keep value)) between) :
    Mirrors labels carry (first >>= second) (other >>= later) session := by
  unfold Mirrors at firstMirrors ⊢
  rw [bind_run, bind_run, firstMirrors]
  rcases run : first session with ⟨diagnosis | value, between⟩
  · rfl
  · exact secondMirrors value between run

/-- A step that begins with a look at the session. -/
theorem Mirrors.get_bind {carry : Value → Value} {step other : Session → Step Value}
    (mirrors : Mirrors labels carry (step session) (other (session.relabel labels)) session) :
    Mirrors labels carry (get >>= step) (get >>= other) session :=
  mirrors

/-- A choice that the new labels do not change. -/
theorem mirrors_ite {carry : Value → Value} {choice : Prop} [Decidable choice]
    {step other alternative otherAlternative : Step Value}
    (holds : choice → Mirrors labels carry step other session)
    (fails : ¬ choice → Mirrors labels carry alternative otherAlternative session) :
    Mirrors labels carry (if choice then step else alternative)
      (if choice then other else otherAlternative) session := by
  by_cases chosen : choice
  · rw [if_pos chosen, if_pos chosen]
    exact holds chosen
  · rw [if_neg chosen, if_neg chosen]
    exact fails chosen

theorem mirrors_refuse (carry : Value → Value) (expected : String) :
    Mirrors labels carry (refuse expected) (refuse expected) session :=
  .get_bind (mirrors_throw (session.unexpected_relabel labels expected))

theorem mirrors_fail {carry : Value → Value} {fault other : Fault}
    (same : other = fault.relabel labels session.current.kind) :
    Mirrors labels carry (fail fault) (fail other) session :=
  .get_bind (mirrors_throw
    (congrArg (fun given => Diagnosis.mk given (labels.place session.statementStart)) same))

theorem mirrors_next : Mirrors labels (Token.relabel labels) next next session := by
  unfold Mirrors
  rw [next_run, next_run, Session.current_relabel, Session.advance_relabel]
  rfl

/-- Passing a token first, and then going on with it. -/
theorem mirrors_next_bind {carry : Value → Value} {step other : Token → Step Value}
    (mirrors : Mirrors labels carry (step session.current)
      (other (session.current.relabel labels)) session.advance) :
    Mirrors labels carry (next >>= step) (next >>= other) session := by
  refine mirrors_next.bind fun token between passed => ?_
  obtain ⟨rfl, rfl⟩ := ok_eq_ok_iff.mp passed
  exact mirrors

theorem mirrors_expectOr {kind : TokenKind} {otherwise : Session → Diagnosis}
    (same : otherwise (session.relabel labels) =
      (otherwise session).relabel labels session.current.kind) :
    Mirrors labels (Token.relabel labels) (expectOr kind otherwise) (expectOr kind otherwise)
      session := by
  refine .get_bind ?_
  rw [Session.current_relabel, Token.kind_relabel]
  exact mirrors_ite (fun _ => mirrors_next) fun _ => mirrors_throw same

theorem mirrors_expect (kind : TokenKind) :
    Mirrors labels (Token.relabel labels) (expect kind) (expect kind) session :=
  mirrors_expectOr (session.unexpected_relabel labels kind.describe)

theorem mirrors_expectSemicolon :
    Mirrors labels (Token.relabel labels) expectSemicolon expectSemicolon session :=
  mirrors_expectOr (session.missingSemicolon_relabel labels)

/-- Passing an identifier, whose text is a name. -/
theorem mirrors_expect_identifier_bind {carry : Value → Value} {step other : Token → Step Value}
    (mirrors : ∀ token between, (token.relabel labels).value = labels.name token.value →
      Mirrors labels carry (step token) (other (token.relabel labels)) between) :
    Mirrors labels carry (expect .identifier >>= step) (expect .identifier >>= other) session := by
  refine (mirrors_expect .identifier).bind fun token between passed => mirrors token between ?_
  exact Token.value_relabel_identifier labels ((yields_expectOr_iff (by decide)).mp passed).1

theorem mirrors_lookUp {name other : String} (renamed : other = labels.name name) :
    Mirrors labels id (lookUp name) (lookUp other) session := by
  refine .get_bind ?_
  rw [renamed, show (session.relabel labels).symbols.find? (labels.name name) = _ from
    session.symbols.find?_relabel labels name]
  cases session.symbols.find? name with
  | some type => exact mirrors_pure id type
  | none => exact mirrors_fail rfl

theorem mirrors_declare {name other : String} (renamed : other = labels.name name)
    (type : ScalarType) :
    Mirrors labels id (declare name type) (declare other type) session := by
  unfold Mirrors
  rw [declare_run, declare_run, renamed]
  unfold SymbolTable.declare
  rw [show (session.relabel labels).symbols.find? (labels.name name) = _ from
    session.symbols.find?_relabel labels name]
  cases session.symbols.find? name <;> rfl

theorem mirrors_beginStatement : Mirrors labels id beginStatement beginStatement session := by
  show (Except.ok (), (session.relabel labels).beginStatement) = _
  unfold Session.beginStatement
  rw [Session.current_relabel]
  rfl

theorem mirrors_enter (phase : Phase) : Mirrors labels id (enter phase) (enter phase) session :=
  rfl

theorem mirrors_opening : Mirrors labels (Opening.relabel labels) opening opening session := by
  refine .get_bind ?_
  rw [Session.current_relabel, Session.index_relabel]
  exact mirrors_pure (Opening.relabel labels) _

theorem mirrors_close (kind : StatementKind) (opening : Opening) :
    Mirrors labels (Clause.relabel labels) (close kind opening)
      (close kind (opening.relabel labels)) session := by
  refine .get_bind ?_
  unfold Session.clause
  rw [Session.index_relabel, show (session.relabel labels).stream.previous = _ from
    session.stream.previous_relabel labels]
  exact mirrors_pure (Clause.relabel labels) _

/-! ### Expressions -/

theorem mirrors_literal : Mirrors labels id literal literal session := by
  refine .get_bind ?_
  rw [Session.current_relabel, Token.kind_relabel]
  cases session.current.kind with
  | integerLiteral => exact mirrors_next_bind (mirrors_pure id ScalarType.integer)
  | doubleLiteral => exact mirrors_next_bind (mirrors_pure id ScalarType.double)
  | _ => exact mirrors_refuse id _

theorem mirrors_operand : Mirrors labels id operand operand session := by
  refine .get_bind ?_
  rw [Session.current_relabel, Token.kind_relabel]
  cases kind : session.current.kind with
  | identifier =>
    exact mirrors_next_bind (mirrors_lookUp (Token.value_relabel_identifier labels kind))
  | integerLiteral => exact mirrors_literal
  | doubleLiteral => exact mirrors_literal
  | dash => exact mirrors_next_bind mirrors_literal
  | stringLiteral => exact mirrors_fail rfl
  | _ => exact mirrors_refuse id _

theorem mirrors_sumFrom (left : ScalarType) (session : Session) :
    Mirrors labels id (sumFrom left) (sumFrom left) session := by
  induction left, session using sumFrom_induction with
  | round left session later =>
    rw [sumFrom_eq]
    refine .get_bind ?_
    rw [Session.current_relabel, Token.kind_relabel]
    exact mirrors_ite (fun sign => mirrors_next_bind (mirrors_operand.bind (later sign))) fun _ =>
      mirrors_pure id left

theorem mirrors_expression : Mirrors labels id expression expression session :=
  mirrors_operand.bind fun left between _ => mirrors_sumFrom left between

theorem mirrors_relation : Mirrors labels (Token.relabel labels) relation relation session := by
  refine .get_bind ?_
  rw [Session.current_relabel, Token.kind_relabel]
  exact mirrors_ite (fun _ => mirrors_next) fun _ => mirrors_refuse _ _

theorem mirrors_condition : Mirrors labels id condition condition session :=
  mirrors_expect_identifier_bind fun _ _ named => (mirrors_lookUp named).bind fun _ _ _ =>
    mirrors_relation.bind fun _ _ _ => mirrors_operand.bind fun _ _ _ => mirrors_pure id ()

/-! ### Statements -/

theorem mirrors_typeName : Mirrors labels id typeName typeName session := by
  refine .get_bind ?_
  rw [Session.current_relabel, Token.kind_relabel]
  cases ScalarType.ofKind? session.current.kind with
  | some type => exact mirrors_next_bind (mirrors_pure id type)
  | none => exact mirrors_refuse id _

theorem mirrors_declaration :
    Mirrors labels (Clause.relabel labels) declaration declaration session :=
  mirrors_opening.bind fun opening _ _ => mirrors_expect_identifier_bind fun _ _ named =>
    (mirrors_expect .colon).bind fun _ _ _ => mirrors_typeName.bind fun type _ _ =>
    mirrors_expectSemicolon.bind fun _ _ _ => (mirrors_declare named type).bind fun _ _ _ =>
    mirrors_close .declaration opening

theorem mirrors_checkFit (target value : ScalarType) :
    Mirrors labels id (checkFit target value) (checkFit target value) session :=
  mirrors_ite (fun _ => mirrors_pure id ()) fun _ => mirrors_fail rfl

theorem mirrors_assignment :
    Mirrors labels (Clause.relabel labels) assignment assignment session :=
  mirrors_opening.bind fun opening _ _ => mirrors_expect_identifier_bind fun _ _ named =>
    (mirrors_expect .colonEquals).bind fun _ _ _ => (mirrors_lookUp named).bind fun target _ _ =>
    mirrors_expression.bind fun value _ _ => mirrors_expectSemicolon.bind fun _ _ _ =>
    (mirrors_checkFit target value).bind fun _ _ _ => mirrors_close .assignment opening

theorem mirrors_identifierStatement :
    Mirrors labels (Clause.relabel labels) identifierStatement identifierStatement session := by
  refine .get_bind ?_
  rw [Session.kindAt_relabel]
  cases session.stream.kindAt 1 with
  | colon => exact mirrors_declaration
  | colonEquals => exact mirrors_assignment
  | _ => exact mirrors_next_bind (mirrors_refuse _ _)

theorem mirrors_shown : Mirrors labels id shown shown session := by
  refine .get_bind ?_
  rw [Session.current_relabel, Token.kind_relabel]
  exact mirrors_ite (fun _ => mirrors_next_bind (mirrors_pure id ())) fun _ =>
    mirrors_expression.bind fun _ _ _ => mirrors_pure id ()

theorem mirrors_output : Mirrors labels (Clause.relabel labels) output output session :=
  mirrors_opening.bind fun opening _ _ => (mirrors_expect .outputWord).bind fun _ _ _ =>
    (mirrors_expect .lessLess).bind fun _ _ _ => mirrors_shown.bind fun _ _ _ =>
    mirrors_expectSemicolon.bind fun _ _ _ => mirrors_close .output opening

theorem mirrors_guarded : Mirrors labels (Clause.relabel labels) guarded guarded session := by
  refine .get_bind ?_
  rw [Session.current_relabel, Session.kindAt_relabel, Token.kind_relabel]
  cases kind : session.current.kind with
  | identifier =>
    exact mirrors_ite (fun _ => mirrors_fail rfl) fun _ => mirrors_identifierStatement
  | outputWord => exact mirrors_output
  | ifWord => exact mirrors_fail rfl
  | _ => exact mirrors_refuse _ _

theorem mirrors_body : Mirrors labels (Clause.relabel labels) body body session :=
  (mirrors_enter _).bind fun _ _ _ => mirrors_beginStatement.bind fun _ _ _ =>
    mirrors_guarded.bind fun clause _ _ => (mirrors_enter _).bind fun _ _ _ =>
    mirrors_pure (Clause.relabel labels) clause

theorem mirrors_conditional :
    Mirrors labels (Statement.relabel labels) conditional conditional session :=
  mirrors_opening.bind fun opening _ _ => (mirrors_expect .ifWord).bind fun _ _ _ =>
    (mirrors_expect .openParen).bind fun _ _ _ => mirrors_condition.bind fun _ _ _ =>
    (mirrors_expect .closeParen).bind fun _ _ _ => mirrors_body.bind fun inner _ _ =>
    (mirrors_close .conditional opening).bind fun outer _ _ =>
    mirrors_pure (Statement.relabel labels) ⟨outer, some inner⟩

theorem mirrors_alone {step other : Step Clause}
    (mirrors : Mirrors labels (Clause.relabel labels) step other session) :
    Mirrors labels (Statement.relabel labels) (alone step) (alone other) session :=
  mirrors.bind fun clause _ _ => mirrors_pure (Statement.relabel labels) clause.alone

theorem mirrors_follow (production : Production) :
    Mirrors labels (Statement.relabel labels) (follow production) (follow production) session := by
  cases production with
  | statement => exact mirrors_refuse _ _
  | identifier => exact mirrors_alone mirrors_identifierStatement
  | declaration => exact mirrors_alone mirrors_declaration
  | assignment => exact mirrors_alone mirrors_assignment
  | output => exact mirrors_alone mirrors_output
  | conditional => exact mirrors_conditional
  | body => exact mirrors_alone mirrors_body

theorem mirrors_statement :
    Mirrors labels (Statement.relabel labels) statement statement session := by
  refine mirrors_beginStatement.bind fun _ between _ => .get_bind ?_
  rw [Session.current_relabel, Token.kind_relabel, Session.productions_relabel]
  cases between.productions between.current.kind with
  | some production => exact mirrors_follow production
  | none => exact mirrors_refuse _ _

/-! ### Runs -/

theorem mirrors_statements (session : Session) :
    Mirrors labels (List.map (Statement.relabel labels)) Session.statements Session.statements
      session := by
  induction session using statements_induction with
  | round session later =>
    rw [statements_eq]
    refine .get_bind ?_
    unfold Session.hasTokens
    rw [Session.current_relabel, Token.kind_relabel]
    refine mirrors_ite (fun _ => ?_) fun _ =>
      mirrors_pure (List.map (Statement.relabel labels)) []
    exact mirrors_statement.bind fun first between yields =>
      (later first between yields).bind fun more _ _ =>
        mirrors_pure (List.map (Statement.relabel labels)) (first :: more)

end Step

/-! ### Checking relabelled tokens -/

def Validation.relabel (validation : Validation) : Validation :=
  let run := relabelRun labels (List.map (Statement.relabel labels))
    (validation.outcome, validation.session)
  ⟨run.1, run.2⟩

/-- Checking relabelled tokens yields the relabelled outcome. -/
theorem validate_map_relabel {tokens : List Token} (notEmpty : tokens ≠ []) (file : String) :
    validate (tokens.map (Token.relabel labels)) file =
      (validate tokens file).relabel labels := by
  have mirrored : Step.Mirrors labels (List.map (Statement.relabel labels)) Session.statements
      Session.statements (Session.start tokens file).registerGrammar :=
    Step.mirrors_statements _
  have begins : (Session.start (tokens.map (Token.relabel labels)) file).registerGrammar =
      (Session.start tokens file).registerGrammar.relabel labels :=
    congrArg Session.registerGrammar (Session.start_map_relabel labels notEmpty file)
  unfold Step.Mirrors at mirrored
  rw [← begins] at mirrored
  simp only [validate, mirrored]
  rcases (Session.start tokens file).registerGrammar.statements with ⟨_ | _, after⟩ <;> rfl

end HLang
