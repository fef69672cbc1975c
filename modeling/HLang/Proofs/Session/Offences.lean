/-
This file says at which point of a statement its meaning is settled to be wrong, and that a session
reports it there. An offence is the front of a statement up to the token that decides: the sign
behind an undeclared target, the first undeclared operand of an expression, the semicolon of an
assignment whose value does not fit, or of a declaration whose variable is declared already.

Nothing is said of the tokens behind an offence, and the steps of a production before it succeed.
So a statement that begins with an offence fails for it, whatever follows.
-/

import HLang.Proofs.Session.Branches

namespace HLang

namespace Grammar

/-! ### Offences -/

/-- Whether a variable is declared. -/
def Knows (scope : Scope) (name : Leaf [.identifier]) : Prop :=
  ∃ type, scope name.token.value type

/-- The last operand of the expression is a variable that is not declared; the others are numbers or
declared variables. -/
structure Sum.EndsUnknown (scope : Scope) (sum : Sum) (name : Leaf [.identifier]) : Prop where
  operands : ∃ earlier : List Operand, sum.operands = earlier ++ [.named name] ∧
    ∀ operand ∈ earlier, operand.InScope scope
  unknown : ¬ Knows scope name

/-- The tokens begin an assignment or an output and settle that it has the fault. -/
inductive Offends (scope : Scope) : List Token → Fault → Prop
  | target (name : Leaf [.identifier]) (sign : Leaf [.colonEquals]) (unknown : ¬ Knows scope name) :
    Offends scope [name.token, sign.token] (.undeclaredIdentifier name.token.value)
  | value (target : Leaf [.identifier]) (sign : Leaf [.colonEquals]) (sum : Sum)
    (name : Leaf [.identifier]) (known : Knows scope target) (ends : sum.EndsUnknown scope name) :
    Offends scope ([target.token, sign.token] ++ sum.tokens)
      (.undeclaredIdentifier name.token.value)
  | shown (word : Leaf [.outputWord]) (sign : Leaf [.lessLess]) (sum : Sum)
    (name : Leaf [.identifier]) (ends : sum.EndsUnknown scope name) :
    Offends scope ([word.token, sign.token] ++ sum.tokens)
      (.undeclaredIdentifier name.token.value)
  | mismatch (tree : Assignment) (integer : scope tree.target.token.value .integer)
    (inScope : tree.value.InScope scope)
    (double : ∃ operand ∈ tree.value.operands, operand.HasType scope .double) :
    Offends scope tree.tokens (.typeMismatch "integer" "double")

/-- The tokens, with those of a whole header before them if there are any, begin a statement and
settle that it has the fault. -/
inductive Condemns (scope : Scope) : List Token → List Token → Fault → Prop
  | alone {tokens : List Token} {fault : Fault} (offends : Offends scope tokens fault) :
    Condemns scope [] tokens fault
  | guarded {tokens : List Token} {fault : Fault} (header : Header)
    (fits : header.condition.Fits scope) (offends : Offends scope tokens fault) :
    Condemns scope header.tokens tokens fault
  | subject (word : Leaf [.ifWord]) (left : Leaf [.openParen]) (name : Leaf [.identifier])
    (unknown : ¬ Knows scope name) :
    Condemns scope [] [word.token, left.token, name.token]
      (.undeclaredIdentifier name.token.value)
  | operand (word : Leaf [.ifWord]) (left : Leaf [.openParen]) (subject : Leaf [.identifier])
    (relation : Relation) (name : Leaf [.identifier]) (known : Knows scope subject)
    (unknown : ¬ Knows scope name) :
    Condemns scope [] [word.token, left.token, subject.token, relation.token, name.token]
      (.undeclaredIdentifier name.token.value)
  | duplicate (tree : Declaration) (known : Knows scope tree.name) :
    Condemns scope [] tree.tokens (.duplicateDeclaration tree.name.token.value)

end Grammar

open Grammar

namespace Step

/-! ### Steps that report a fault -/

/-- The step fails with the fault, reported at the place. -/
def Reports {Value : Type} (step : Step Value) (session : Session) (fault : Fault)
    (place : Position) : Prop :=
  ∃ after, Fails step session ⟨fault, place⟩ after

variable {Value First Second : Type} {session between : Session} {fault : Fault}
  {place : Position} {name : Leaf [.identifier]}

theorem Reports.bind {first : Step First} {second : First → Step Second}
    (reports : Reports first session fault place) :
    Reports (first >>= second) session fault place := by
  obtain ⟨after, failed⟩ := reports
  exact ⟨after, fails_bind_iff.mpr (Or.inl failed)⟩

theorem Reports.behind {first : Step First} {second : First → Step Second} {value : First}
    (yields : Yields first session value between)
    (reports : Reports (second value) between fault place) :
    Reports (first >>= second) session fault place := by
  obtain ⟨after, failed⟩ := reports
  exact ⟨after, fails_bind_iff.mpr (Or.inr ⟨value, between, yields, failed⟩)⟩

/-- Two steps with the same run report the same. -/
theorem Reports.congr {step other : Step Value} {start : Session}
    (reports : Reports other start fault place) (same : step session = other start) :
    Reports step session fault place := by
  obtain ⟨after, failed⟩ := reports
  exact ⟨after, same.trans failed⟩

theorem reports_lookUp (unknown : ¬ Knows session.symbols.scope name) :
    Reports (lookUp name.token.value) session (.undeclaredIdentifier name.token.value)
      session.statementStart := by
  have missing : session.symbols.find? name.token.value = none :=
    Option.eq_none_iff_forall_ne_some.mpr fun type found => unknown ⟨type, found⟩
  refine ⟨session, ?_⟩
  unfold Fails
  rw [lookUp_run, missing]
  rfl

theorem reports_operand (unknown : ¬ Knows session.symbols.scope name)
    (front : [name.token] <+: session.stream.ahead) :
    Reports operand session (.undeclaredIdentifier name.token.value) session.statementStart := by
  have current : session.current = name.token := Session.current_of_isPrefix front
  have reports : Reports (lookUp name.token.value) (session.pass 1) _ session.statementStart :=
    reports_lookUp unknown
  refine reports.congr ?_
  rw [operand_of_identifier (by rw [current, name.kind_eq]), current]

/-! ### Expressions -/

/-- The first undeclared operand of an expression is reported. The induction is on the operands
before it; each of them may change the type of the expression, which decides nothing here. -/
theorem reports_operand_sumFrom (unknown : ¬ Knows session.symbols.scope name)
    {earlier : List Operand} (inScope : ∀ operand ∈ earlier,
      operand.InScope session.symbols.scope) {first : Operand} {more : List Summand}
    (operands : first :: more.map Summand.operand = earlier ++ [.named name])
    (front : first.tokens ++ more.flatMap Summand.tokens <+: session.stream.ahead)
    (widen : ScalarType → ScalarType) :
    Reports (operand >>= fun type => sumFrom (widen type)) session
      (.undeclaredIdentifier name.token.value) session.statementStart := by
  induction earlier generalizing session first more widen with
  | nil =>
    obtain ⟨rfl, -⟩ := List.cons.inj operands
    exact (reports_operand unknown (append_isPrefix_iff.mp front).1).bind
  | cons own earlier inductionHypothesis =>
    obtain ⟨rfl, rest⟩ := List.cons.inj operands
    obtain ⟨firstFront, moreFront⟩ := append_isPrefix_iff.mp front
    cases more with
    | nil => exact absurd rest.symm (List.append_ne_nil_of_right_ne_nil _ (List.cons_ne_nil _ _))
    | cons summand more =>
      obtain ⟨type, typed⟩ := inScope first List.mem_cons_self
      have passed : Yields operand session type (session.pass first.tokens.length) :=
        yields_operand_iff.mpr ⟨first, firstFront, typed, rfl⟩
      obtain ⟨signFront, laterFront⟩ := cons_isPrefix_iff.mp moreFront
      have sign : IsSign (session.pass first.tokens.length).current.kind := by
        rw [Session.current_of_isPrefix signFront]
        exact summand.sign.kind_eq_or
      have missing : ¬ Knows ((session.pass first.tokens.length).pass 1).symbols.scope name :=
        unknown
      have later : Reports (operand >>= fun right => sumFrom ((widen type).widen right))
          ((session.pass first.tokens.length).pass 1) _ session.statementStart :=
        inductionHypothesis missing
          (fun operand member => inScope operand (List.mem_cons_of_mem first member)) rest
          laterFront _
      exact .behind passed (later.congr (sumFrom_of_sign sign))

theorem reports_expression {sum : Sum} (ends : sum.EndsUnknown session.symbols.scope name)
    (front : sum.tokens <+: session.stream.ahead) :
    Reports expression session (.undeclaredIdentifier name.token.value) session.statementStart := by
  obtain ⟨earlier, operands, inScope⟩ := ends.operands
  exact reports_operand_sumFrom ends.unknown inScope operands front id

/-! ### Assignments and outputs -/

theorem reports_checkFit : Reports (checkFit .integer .double) session
    (.typeMismatch "integer" "double") session.statementStart :=
  ⟨session, rfl⟩

/-- An assignment whose target is not declared is reported behind its sign. -/
theorem reports_assignment_of_target {sign : Leaf [.colonEquals]}
    (unknown : ¬ Knows session.symbols.scope name)
    (front : [name.token, sign.token] <+: session.stream.ahead) :
    Reports assignment session (.undeclaredIdentifier name.token.value)
      session.statementStart := by
  have reports : Reports (lookUp name.token.value) ((session.pass 1).pass 1) _
      session.statementStart := reports_lookUp unknown
  exact reports.bind.congr (opened_run name sign (by decide) front)

/-- With a declared target, an assignment goes on to its value. -/
theorem reports_assignment_of_value {target : Leaf [.identifier]} {sign : Leaf [.colonEquals]}
    {type : ScalarType} (declared : session.symbols.find? target.token.value = some type)
    (front : [target.token, sign.token] <+: session.stream.ahead)
    (reports : ∀ opening, Reports (expression >>= fun value => expectSemicolon >>= fun _ =>
        checkFit type value >>= fun _ => close .assignment opening)
      ((session.pass 1).pass 1) fault place) :
    Reports assignment session fault place := by
  have found : Yields (lookUp target.token.value) ((session.pass 1).pass 1) type _ :=
    yields_lookUp_iff.mpr ⟨declared, rfl⟩
  exact (Reports.behind found (reports _)).congr (opened_run target sign (by decide) front)

/-- A double for an integer variable is reported behind the semicolon. -/
theorem reports_assignment_of_mismatch {tree : Assignment}
    (integer : session.symbols.scope tree.target.token.value .integer)
    (inScope : tree.value.InScope session.symbols.scope)
    (double : ∃ operand ∈ tree.value.operands, operand.HasType session.symbols.scope .double)
    (front : tree.tokens <+: session.stream.ahead) :
    Reports assignment session (.typeMismatch "integer" "double") session.statementStart := by
  obtain ⟨targetFront, signFront, valueFront, semicolonFront⟩ := framed_isPrefix_iff.mp front
  have ended : ¬ IsSign
      (((session.pass 1).pass 1).pass tree.value.tokens.length).current.kind := by
    rw [Session.current_of_isPrefix semicolonFront, tree.semicolon.kind_eq]
    simp [IsSign]
  have valued : Yields expression ((session.pass 1).pass 1) .double
      (((session.pass 1).pass 1).pass tree.value.tokens.length) :=
    yields_expression_iff.mpr
      ⟨tree.value, valueFront, ⟨inScope, iff_of_true rfl double⟩, rfl, ended⟩
  have closed : Yields expectSemicolon
      (((session.pass 1).pass 1).pass tree.value.tokens.length) tree.semicolon.token _ :=
    (yields_expectOr_iff (by decide)).mpr ⟨tree.semicolon.kind_eq, semicolonFront, rfl⟩
  refine reports_assignment_of_value integer (cons_isPrefix_iff.mpr ⟨targetFront, signFront⟩)
    fun opening => .behind valued (.behind closed ?_)
  have reports : Reports (checkFit .integer .double)
      ((((session.pass 1).pass 1).pass tree.value.tokens.length).pass 1) _
      session.statementStart := reports_checkFit
  exact reports.bind

theorem reports_output {word : Leaf [.outputWord]} {sign : Leaf [.lessLess]} {sum : Sum}
    (ends : sum.EndsUnknown session.symbols.scope name)
    (front : [word.token, sign.token] ++ sum.tokens <+: session.stream.ahead) :
    Reports output session (.undeclaredIdentifier name.token.value) session.statementStart := by
  obtain ⟨opened, later⟩ := append_isPrefix_iff.mp front
  have sumFront : sum.tokens <+: ((session.pass 1).pass 1).stream.ahead := by simpa using later
  have reports : Reports expression ((session.pass 1).pass 1) _ session.statementStart :=
    reports_expression ends sumFront
  have shows := reports.bind.congr (shown_of_expression (current_ne_text sumFront))
  exact shows.bind.congr (opened_run word sign (by decide) opened)

/-- The first tokens choose an assignment or an output, and that reports the fault at the start of
the statement being checked. -/
def Rejects (session : Session) (fault : Fault) : Prop :=
  session.current.kind = .identifier ∧ session.stream.kindAt 1 = .colonEquals ∧
      Reports assignment session fault session.statementStart ∨
    session.current.kind = .outputWord ∧ Reports output session fault session.statementStart

/-- An offence is reported by the production that its first tokens choose. -/
theorem rejects_of_offends {tokens : List Token}
    (offends : Offends session.symbols.scope tokens fault)
    (front : tokens <+: session.stream.ahead) : Rejects session fault := by
  cases offends with
  | target name sign unknown =>
    refine Or.inl ⟨?_, ?_, reports_assignment_of_target unknown front⟩
    · rw [Session.current_of_isPrefix front, name.kind_eq]
    · rw [kindAt_one_of_isPrefix front, sign.kind_eq]
  | value target sign sum name known ends =>
    obtain ⟨type, declared⟩ := known
    obtain ⟨opened, sumFront⟩ := append_isPrefix_iff.mp front
    refine Or.inl ⟨?_, ?_, ?_⟩
    · rw [Session.current_of_isPrefix front, target.kind_eq]
    · rw [kindAt_one_of_isPrefix front, sign.kind_eq]
    · refine reports_assignment_of_value declared opened fun opening => Reports.bind ?_
      exact reports_expression ends (by simpa using sumFront)
  | shown word sign sum name ends =>
    refine Or.inr ⟨?_, reports_output ends front⟩
    rw [Session.current_of_isPrefix front, word.kind_eq]
  | mismatch tree integer inScope double =>
    refine Or.inl ⟨?_, ?_, reports_assignment_of_mismatch integer inScope double front⟩
    · rw [Session.current_of_isPrefix front, tree.target.kind_eq]
    · rw [kindAt_one_of_isPrefix front, tree.sign.kind_eq]

/-! ### Bodies and headers -/

theorem Rejects.reports_guarded (rejects : Rejects session fault) :
    Reports guarded session fault session.statementStart := by
  rcases rejects with ⟨name, sign, reports⟩ | ⟨word, reports⟩
  · have noColon : session.stream.kindAt 1 ≠ .colon := by rw [sign]; decide
    exact reports.congr ((guarded_of_identifier name noColon).trans
      (identifierStatement_of_colonEquals sign))
  · exact reports.congr (guarded_of_outputWord word)

/-- In the body of a conditional, the fault is reported at the start of the body. -/
theorem Rejects.reports_body (rejects : Rejects session.enterBody fault) :
    Reports body session fault session.current.span.start := by
  have entered : body session =
      (guarded >>= fun clause => enter .scanning >>= fun _ => pure clause) session.enterBody := rfl
  exact rejects.reports_guarded.bind.congr entered

/-- What a body reports behind a header that fits, the conditional reports. -/
theorem reports_conditional_of_body {header : Header}
    (fits : header.condition.Fits session.symbols.scope)
    (front : header.tokens <+: session.stream.ahead)
    (reports : Reports body (session.pass header.tokens.length) fault place) :
    Reports conditional session fault place := by
  obtain ⟨wordFront, leftFront, conditionFront, rightFront⟩ := framed_isPrefix_iff.mp front
  have compared : Yields condition ((session.pass 1).pass 1) ()
      (((session.pass 1).pass 1).pass header.condition.tokens.length) :=
    yields_condition_iff.mpr ⟨header.condition, conditionFront, fits, rfl⟩
  have opened := cons_isPrefix_iff.mpr ⟨wordFront, leftFront⟩
  refine Reports.congr ?_ (opened_run header.word header.left (by decide) opened)
  refine .behind compared ?_
  refine .behind (yields_expect_of_isPrefix header.right (by decide) rightFront) ?_
  rw [passed_framed session header.word.token header.left.token header.right.token
    header.condition.tokens]
  exact reports.bind

/-- What a condition reports, the conditional reports. -/
theorem reports_conditional_of_condition {word : Leaf [.ifWord]} {left : Leaf [.openParen]}
    (front : [word.token, left.token] <+: session.stream.ahead)
    (reports : Reports condition ((session.pass 1).pass 1) fault place) :
    Reports conditional session fault place :=
  reports.bind.congr (opened_run word left (by decide) front)

theorem reports_condition_of_subject (unknown : ¬ Knows session.symbols.scope name)
    (front : [name.token] <+: session.stream.ahead) :
    Reports condition session (.undeclaredIdentifier name.token.value) session.statementStart := by
  have reports : Reports (lookUp name.token.value) (session.pass 1) _ session.statementStart :=
    reports_lookUp unknown
  exact .behind (yields_expect_of_isPrefix name (by decide) front) reports.bind

theorem reports_condition_of_operand {subject : Leaf [.identifier]} {relation : Relation}
    (known : Knows session.symbols.scope subject) (unknown : ¬ Knows session.symbols.scope name)
    (front : [subject.token, relation.token, name.token] <+: session.stream.ahead) :
    Reports condition session (.undeclaredIdentifier name.token.value) session.statementStart := by
  obtain ⟨type, declared⟩ := known
  obtain ⟨subjectFront, later⟩ := cons_isPrefix_iff.mp front
  obtain ⟨relationFront, nameFront⟩ := cons_isPrefix_iff.mp later
  have related : Yields Step.relation (session.pass 1) relation.token ((session.pass 1).pass 1) :=
    yields_relation_iff.mpr ⟨relation, relationFront, rfl, rfl⟩
  have reports : Reports operand ((session.pass 1).pass 1) _ session.statementStart :=
    reports_operand unknown nameFront
  refine .behind (yields_expect_of_isPrefix subject (by decide) subjectFront) ?_
  refine .behind (yields_lookUp_iff.mpr ⟨declared, rfl⟩) ?_
  exact .behind related reports.bind

/-! ### Declarations -/

theorem reports_declare (known : Knows session.symbols.scope name) (type : ScalarType) :
    Reports (declare name.token.value type) session (.duplicateDeclaration name.token.value)
      session.statementStart := by
  obtain ⟨own, declared⟩ := known
  have isSome : (session.symbols.find? name.token.value).isSome = true :=
    Option.isSome_iff_exists.mpr ⟨own, declared⟩
  have refused : session.symbols.declare name.token.value type session.statementStart = _ :=
    SymbolTable.declare_eq_error_iff.mpr ⟨isSome, rfl⟩
  refine ⟨session, ?_⟩
  unfold Fails
  rw [declare_run, refused]

/-- A second declaration of a variable is reported behind its semicolon. -/
theorem reports_declaration {tree : Declaration}
    (known : Knows session.symbols.scope tree.name)
    (front : tree.tokens <+: session.stream.ahead) :
    Reports declaration session (.duplicateDeclaration tree.name.token.value)
      session.statementStart := by
  obtain ⟨nameFront, later⟩ := cons_isPrefix_iff.mp front
  obtain ⟨colonFront, later⟩ := cons_isPrefix_iff.mp later
  obtain ⟨wordFront, semicolonFront⟩ := cons_isPrefix_iff.mp later
  have typed : Yields typeName ((session.pass 1).pass 1) tree.word.type
      (((session.pass 1).pass 1).pass 1) :=
    yields_typeName_iff.mpr ⟨tree.word, wordFront, rfl, rfl⟩
  have closed : Yields expectSemicolon (((session.pass 1).pass 1).pass 1) tree.semicolon.token
      ((((session.pass 1).pass 1).pass 1).pass 1) :=
    (yields_expectOr_iff (by decide)).mpr ⟨tree.semicolon.kind_eq, semicolonFront, rfl⟩
  have stillKnown : Knows ((((session.pass 1).pass 1).pass 1).pass 1).symbols.scope tree.name :=
    known
  have reports := reports_declare stillKnown tree.word.type
  have opened := cons_isPrefix_iff.mpr ⟨nameFront, colonFront⟩
  refine Reports.congr ?_ (opened_run tree.name tree.colon (by decide) opened)
  exact .behind typed (.behind closed reports.bind)

/-! ### Statements -/

theorem reports_statement_of_follow {production : Production}
    (registered : session.productions = grammarProductions)
    (chosen : grammarProductions session.current.kind = some production)
    (reports : Reports (follow production) session.beginStatement fault place) :
    Reports statement session fault place :=
  reports.congr (statement_of_chosen registered chosen)

theorem Rejects.reports_statement (registered : session.productions = grammarProductions)
    (rejects : Rejects session.beginStatement fault) :
    Reports statement session fault session.current.span.start := by
  rcases rejects with ⟨name, sign, reports⟩ | ⟨word, reports⟩
  · refine reports_statement_of_follow registered (congrArg grammarProductions name) ?_
    exact (reports.congr (identifierStatement_of_colonEquals sign)).bind
  · exact reports_statement_of_follow registered (congrArg grammarProductions word) reports.bind

theorem reports_statement_of_conditional (registered : session.productions = grammarProductions)
    {word : Leaf [.ifWord]} {more : List Token}
    (front : word.token :: more <+: session.stream.ahead)
    (reports : Reports conditional session.beginStatement fault place) :
    Reports statement session fault place := by
  have follows : Reports (follow .conditional) session.beginStatement fault place := reports
  refine reports_statement_of_follow registered ?_ follows
  rw [Session.current_of_isPrefix front, word.kind_eq]
  rfl

/-- A statement that begins with an offence reports it at its start, or, behind a header, at the
start of its body. -/
theorem reports_statement (registered : session.productions = grammarProductions)
    {header tokens : List Token} (condemns : Condemns session.symbols.scope header tokens fault)
    (front : header ++ tokens <+: session.stream.ahead) :
    Reports statement session fault (session.pass header.length).current.span.start := by
  cases condemns with
  | alone offends =>
    have begun : Offends session.beginStatement.symbols.scope tokens fault := offends
    exact (rejects_of_offends begun front).reports_statement registered
  | guarded header fits offends =>
    obtain ⟨headerFront, tokensFront⟩ := append_isPrefix_iff.mp front
    have inside : Offends
        (session.beginStatement.pass header.tokens.length).enterBody.symbols.scope tokens fault :=
      offends
    have opened : header.condition.Fits session.beginStatement.symbols.scope := fits
    refine reports_statement_of_conditional registered headerFront ?_
    exact reports_conditional_of_body opened headerFront
      (rejects_of_offends inside tokensFront).reports_body
  | subject word left name unknown =>
    obtain ⟨wordFront, later⟩ := cons_isPrefix_iff.mp front
    obtain ⟨leftFront, nameFront⟩ := cons_isPrefix_iff.mp later
    have opened := cons_isPrefix_iff.mpr ⟨wordFront, leftFront⟩
    have missing : ¬ Knows ((session.beginStatement.pass 1).pass 1).symbols.scope name := unknown
    refine reports_statement_of_conditional registered front ?_
    exact reports_conditional_of_condition opened
      (reports_condition_of_subject missing nameFront)
  | operand word left subject relation name known unknown =>
    obtain ⟨wordFront, later⟩ := cons_isPrefix_iff.mp front
    obtain ⟨leftFront, conditionFront⟩ := cons_isPrefix_iff.mp later
    have opened := cons_isPrefix_iff.mpr ⟨wordFront, leftFront⟩
    have declared : Knows ((session.beginStatement.pass 1).pass 1).symbols.scope subject := known
    refine reports_statement_of_conditional registered front ?_
    exact reports_conditional_of_condition opened
      (reports_condition_of_operand declared unknown conditionFront)
  | duplicate tree known =>
    have declared : Knows session.beginStatement.symbols.scope tree.name := known
    have colon : session.beginStatement.stream.kindAt 1 = .colon :=
      (kindAt_one_of_isPrefix front).trans tree.colon.kind_eq
    have follows : Reports (follow .identifier) session.beginStatement _ _ :=
      Reports.bind ((reports_declaration declared front).congr (identifierStatement_of_colon colon))
    refine reports_statement_of_follow registered ?_ follows
    rw [Session.current_of_isPrefix front, tree.name.kind_eq]
    rfl

end Step

end HLang
