/-
This file proves the productions for statements right. Each succeeds exactly if a statement
tree stands at the front of the tokens ahead that fits the declared variables; it then yields
what the tree stands for, passes the tokens of the tree, and leaves the session of
`Session.past`: a declaration adds its variable, and a conditional leaves its body as the last
statement that was begun.

The lookahead that chooses between a declaration and an assignment, and the refusals in a
guarded statement, lose nothing: what they refuse is no tree.
-/

import HLang.Proofs.Session.Expressions
import HLang.Session.Production

namespace HLang

open Grammar

/-! ### The session after a statement -/

/-- The position that was last taken as the start of a statement, once a statement tree was
checked: that of its body for a conditional, and its own otherwise. -/
def Grammar.Form.begun : Form → Position
  | .declaration tree => tree.name.token.span.start
  | .simple tree => tree.head.span.start
  | .conditional tree => tree.body.head.span.start

namespace Session

/-- The session that has left the body of a conditional, which began at `start`. -/
def leave (session : Session) (start : Position) : Session :=
  { session with phase := .scanning, statementStart := start }

/-- The session after a statement tree was checked. -/
def past (session : Session) (form : Form) : Session :=
  { session.pass form.tokens.length with
    symbols := form.extend session.symbols
    phase := match form with | .conditional _ => .scanning | _ => session.phase
    statementStart := form.begun }

end Session

namespace Step

variable {session after : Session} {type : ScalarType} {clause : Clause}

/-! ### Opening and closing a statement -/

theorem yields_opening_bind_iff {Value : Type} {step : Opening → Step Value} {value : Value} :
    Yields (opening >>= step) session value after ↔
      Yields (step ⟨session.current.span.start, session.stream.index⟩) session value after :=
  Iff.rfl

theorem yields_close_iff {kind : StatementKind} {opening : Opening} :
    Yields (close kind opening) session clause after ↔
      session.clause kind opening.first opening.start = clause ∧ session = after :=
  ok_eq_ok_iff

/-! ### Declarations -/

theorem ofKind?_eq_some_iff {kind : TokenKind} :
    ScalarType.ofKind? kind = some type ↔
      kind = .integerWord ∧ .integer = type ∨ kind = .doubleWord ∧ .double = type := by
  unfold ScalarType.ofKind?
  split <;> simp_all

theorem yields_typeName_iff :
    Yields typeName session type after ↔
      ∃ word : TypeWord, [word.token] <+: session.stream.ahead ∧ word.type = type ∧
        session.pass 1 = after := by
  unfold typeName
  rw [yields_get_bind_iff]
  constructor
  · intro run
    split at run
    · rename_i named found
      rw [yields_next_bind_iff, yields_pure_iff] at run
      obtain ⟨rfl, rfl⟩ := run
      rcases ofKind?_eq_some_iff.mp found with ⟨kind, rfl⟩ | ⟨kind, rfl⟩
      · refine ⟨⟨session.current, by simp [kind]⟩, ?_, if_pos kind, rfl⟩
        exact Session.current_isPrefix (by simp [kind])
      · refine ⟨⟨session.current, by simp [kind]⟩, ?_, if_neg (by simp [kind]), rfl⟩
        exact Session.current_isPrefix (by simp [kind])
    · exact absurd run not_yields_refuse
  · rintro ⟨word, front, rfl, rfl⟩
    have current : session.current = word.token := Session.current_of_isPrefix front
    unfold TypeWord.type
    rcases word.kind_eq_or with kind | kind
    · rw [current, kind, if_pos rfl]
      exact yields_next_bind_iff.mpr (yields_pure_iff.mpr ⟨rfl, rfl⟩)
    · rw [current, kind, if_neg (by decide)]
      exact yields_next_bind_iff.mpr (yields_pure_iff.mpr ⟨rfl, rfl⟩)

theorem yields_declaration_iff :
    Yields declaration session clause after ↔
      ∃ tree : Declaration, tree.tokens <+: session.stream.ahead ∧
        session.symbols.find? tree.name.token.value = none ∧ tree.clause = clause ∧
        { session.pass tree.tokens.length with
          symbols := (Form.declaration tree).extend session.symbols } = after := by
  unfold declaration
  simp only [yields_opening_bind_iff, yields_expect_bind_iff, ne_eq, reduceCtorEq,
    not_false_eq_true]
  constructor
  · rintro ⟨name, nameFront, colon, colonFront, run⟩
    obtain ⟨type, between, typed, run⟩ := yields_bind_iff.mp run
    obtain ⟨word, wordFront, rfl, rfl⟩ := yields_typeName_iff.mp typed
    obtain ⟨semicolon, semicolonFront, run⟩ := yields_expectSemicolon_bind_iff.mp run
    obtain ⟨nothing, between, declared, closed⟩ := yields_bind_iff.mp run
    obtain ⟨fresh, rfl⟩ := yields_declare_iff.mp declared
    obtain ⟨rfl, rfl⟩ := yields_close_iff.mp closed
    have front : (Declaration.mk name colon word semicolon).tokens <+: session.stream.ahead :=
      cons_isPrefix_iff.mpr ⟨nameFront, cons_isPrefix_iff.mpr ⟨colonFront,
        cons_isPrefix_iff.mpr ⟨wordFront, semicolonFront⟩⟩⟩
    refine ⟨⟨name, colon, word, semicolon⟩, front, fresh, ?_, ?_⟩
    · rw [Session.current_of_isPrefix nameFront, Session.pass_pass, Session.pass_pass,
        Session.pass_pass]
      exact (Session.clause_pass front .declaration name.token.span.start).symm
    · rw [Session.pass_pass, Session.pass_pass, Session.pass_pass]
      rfl
  · rintro ⟨⟨name, colon, word, semicolon⟩, front, fresh, rfl, rfl⟩
    obtain ⟨nameFront, later⟩ := cons_isPrefix_iff.mp front
    obtain ⟨colonFront, later⟩ := cons_isPrefix_iff.mp later
    obtain ⟨wordFront, semicolonFront⟩ := cons_isPrefix_iff.mp later
    refine ⟨name, nameFront, colon, colonFront, yields_bind_iff.mpr ⟨word.type, _,
      yields_typeName_iff.mpr ⟨word, wordFront, rfl, rfl⟩, ?_⟩⟩
    refine yields_expectSemicolon_bind_iff.mpr ⟨semicolon, semicolonFront, yields_bind_iff.mpr
      ⟨(), _, yields_declare_iff.mpr ⟨fresh, rfl⟩, yields_close_iff.mpr ⟨?_, ?_⟩⟩⟩
    · rw [Session.current_of_isPrefix nameFront, Session.pass_pass, Session.pass_pass,
        Session.pass_pass]
      exact Session.clause_pass front .declaration name.token.span.start
    · rw [Session.pass_pass, Session.pass_pass, Session.pass_pass]
      rfl

/-! ### Statements between two leaves and a semicolon -/

theorem framed_isPrefix_iff {first second last : Token} {middle ahead : List Token} :
    [first, second] ++ middle ++ [last] <+: ahead ↔
      [first] <+: ahead ∧ [second] <+: ahead.drop 1 ∧ middle <+: (ahead.drop 1).drop 1 ∧
        [last] <+: ((ahead.drop 1).drop 1).drop middle.length := by
  show first :: second :: (middle ++ [last]) <+: ahead ↔ _
  refine cons_isPrefix_iff.trans (and_congr_right fun _ => ?_)
  refine cons_isPrefix_iff.trans (and_congr_right fun _ => ?_)
  exact append_isPrefix_iff

theorem passed_framed (session : Session) (first second last : Token) (middle : List Token) :
    (((session.pass 1).pass 1).pass middle.length).pass 1 =
      session.pass ([first, second] ++ middle ++ [last]).length := by
  simp only [Session.pass_pass, List.length_append, List.length_cons, List.length_nil]

/-! ### Assignments -/

theorem yields_checkFit_iff {target given : ScalarType} {value : Unit} :
    Yields (checkFit target given) session value after ↔
      target.accepts given = true ∧ session = after := by
  unfold checkFit
  split
  · rename_i accepted
    rw [yields_pure_iff]
    exact ⟨fun same => ⟨accepted, same.2⟩, fun same => ⟨rfl, same.2⟩⟩
  · rename_i refused
    exact ⟨fun run => absurd run not_yields_fail, fun same => absurd same.1 refused⟩

theorem exists_hasType {table : SymbolTable} {sum : Sum} (inScope : sum.InScope table.scope) :
    ∃ given, sum.HasType table.scope given := by
  by_cases some : ∃ operand ∈ sum.operands, operand.HasType table.scope .double
  · exact ⟨.double, inScope, iff_of_true rfl some⟩
  · exact ⟨.integer, inScope, iff_of_false (by decide) some⟩

theorem integer_operands_iff {table : SymbolTable} {sum : Sum} {given : ScalarType}
    (typed : sum.HasType table.scope given) :
    (∀ operand ∈ sum.operands, operand.HasType table.scope .integer) ↔ given = .integer := by
  constructor
  · intro integers
    cases given with
    | integer => rfl
    | double =>
      obtain ⟨operand, member, double⟩ := typed.2.mp rfl
      exact absurd ((hasType_double_iff (integers operand member)).mp double) (by decide)
  · rintro rfl operand member
    obtain ⟨own, ownTyped⟩ := typed.1 operand member
    cases own with
    | integer => exact ownTyped
    | double => exact absurd (typed.2.mpr ⟨operand, member, ownTyped⟩) (by decide)

/-- An assignment whose variables are declared fits if its target accepts the type of its
value. -/
theorem assignment_fits_iff {table : SymbolTable} (tree : Assignment) {target given : ScalarType}
    (declared : table.find? tree.target.token.value = some target)
    (typed : tree.value.HasType table.scope given) :
    tree.Fits table.scope ↔ target.accepts given = true := by
  have single : table.scope tree.target.token.value .integer ↔ target = .integer := by
    unfold SymbolTable.scope
    rw [declared, Option.some.injEq]
  constructor
  · rintro ⟨-, -, integer⟩
    rw [single, integer_operands_iff typed] at integer
    cases target with
    | integer => rw [integer rfl]; rfl
    | double => rfl
  · intro accepted
    refine ⟨⟨target, declared⟩, typed.1, fun isInteger => ?_⟩
    rw [integer_operands_iff typed]
    rw [single.mp isInteger] at accepted
    cases given with
    | integer => rfl
    | double => exact absurd accepted (by decide)

theorem yields_assignment_iff :
    Yields assignment session clause after ↔
      ∃ tree : Assignment, tree.tokens <+: session.stream.ahead ∧
        tree.Fits session.symbols.scope ∧ (Guarded.assignment tree).clause = clause ∧
        session.pass tree.tokens.length = after := by
  unfold assignment
  simp only [yields_opening_bind_iff, yields_expect_bind_iff, ne_eq, reduceCtorEq,
    not_false_eq_true]
  constructor
  · rintro ⟨target, targetFront, sign, signFront, run⟩
    obtain ⟨declaredType, between, found, run⟩ := yields_bind_iff.mp run
    obtain ⟨declared, rfl⟩ := yields_lookUp_iff.mp found
    obtain ⟨given, between, valued, run⟩ := yields_bind_iff.mp run
    obtain ⟨value, valueFront, typed, rfl, -⟩ := yields_expression_iff.mp valued
    obtain ⟨semicolon, semicolonFront, run⟩ := yields_expectSemicolon_bind_iff.mp run
    obtain ⟨nothing, between, checked, closed⟩ := yields_bind_iff.mp run
    obtain ⟨accepted, rfl⟩ := yields_checkFit_iff.mp checked
    obtain ⟨rfl, rfl⟩ := yields_close_iff.mp closed
    have front : (Assignment.mk target sign value semicolon).tokens <+: session.stream.ahead :=
      framed_isPrefix_iff.mpr ⟨targetFront, signFront, valueFront, semicolonFront⟩
    have passed := passed_framed session target.token sign.token semicolon.token value.tokens
    have fits : (Assignment.mk target sign value semicolon).Fits session.symbols.scope :=
      (assignment_fits_iff ⟨target, sign, value, semicolon⟩ declared typed).mpr accepted
    refine ⟨⟨target, sign, value, semicolon⟩, front, fits, ?_, passed.symm⟩
    rw [Session.current_of_isPrefix targetFront, passed]
    exact (Session.clause_pass front .assignment target.token.span.start).symm
  · rintro ⟨⟨target, sign, value, semicolon⟩, front, fits, rfl, rfl⟩
    obtain ⟨targetFront, signFront, valueFront, semicolonFront⟩ := framed_isPrefix_iff.mp front
    obtain ⟨declaredType, declared⟩ := fits.target
    obtain ⟨given, typed⟩ := exists_hasType fits.value
    have ended : ¬ IsSign (((session.pass 1).pass 1).pass value.tokens.length).current.kind := by
      rw [Session.current_of_isPrefix semicolonFront, semicolon.kind_eq]
      simp [IsSign]
    have passed := passed_framed session target.token sign.token semicolon.token value.tokens
    refine ⟨target, targetFront, sign, signFront, yields_bind_iff.mpr ⟨declaredType, _,
      yields_lookUp_iff.mpr ⟨declared, rfl⟩, yields_bind_iff.mpr ⟨given, _,
      yields_expression_iff.mpr ⟨value, valueFront, typed, rfl, ended⟩, ?_⟩⟩⟩
    refine yields_expectSemicolon_bind_iff.mpr ⟨semicolon, semicolonFront, yields_bind_iff.mpr
      ⟨(), _, yields_checkFit_iff.mpr ⟨(assignment_fits_iff _ declared typed).mp fits, rfl⟩,
      yields_close_iff.mpr ⟨?_, passed⟩⟩⟩
    rw [Session.current_of_isPrefix targetFront, passed]
    exact Session.clause_pass front .assignment target.token.span.start

/-! ### Outputs -/

/-- Whether a token can be missed behind what an output shows: a sign would go on with an
expression. -/
def IsWhole (session : Session) : Shown → Prop
  | .text _ => True
  | .value _ => ¬ IsSign session.current.kind

theorem current_ne_text {sum : Sum} (front : sum.tokens <+: session.stream.ahead) :
    session.current.kind ≠ .stringLiteral := by
  obtain ⟨first, more⟩ := sum
  cases first with
  | named name =>
    rw [Session.current_of_isPrefix front, name.kind_eq]
    decide
  | number numeral =>
    rw [Session.current_of_isPrefix front]
    rcases numeral.kind_eq_or with kind | kind <;> rw [kind] <;> decide
  | negative sign numeral =>
    rw [Session.current_of_isPrefix front, sign.kind_eq]
    decide

theorem yields_shown_iff {value : Unit} :
    Yields shown session value after ↔
      ∃ tree : Shown, tree.tokens <+: session.stream.ahead ∧ tree.Fits session.symbols.scope ∧
        session.pass tree.tokens.length = after ∧ IsWhole after tree := by
  unfold shown
  rw [yields_get_bind_iff]
  constructor
  · intro run
    split at run
    · rename_i kind
      rw [yields_next_bind_iff, yields_pure_iff] at run
      obtain ⟨-, rfl⟩ := run
      refine ⟨.text ⟨session.current, by simp [kind]⟩, ?_, trivial, rfl, trivial⟩
      exact Session.current_isPrefix (by simp [kind])
    · obtain ⟨given, between, valued, run⟩ := yields_bind_iff.mp run
      obtain ⟨sum, front, typed, rfl, ended⟩ := yields_expression_iff.mp valued
      obtain ⟨-, rfl⟩ := yields_pure_iff.mp run
      exact ⟨.value sum, front, typed.1, rfl, ended⟩
  · rintro ⟨tree, front, fits, rfl, whole⟩
    cases tree with
    | text literal =>
      have kind : session.current.kind = .stringLiteral := by
        rw [Session.current_of_isPrefix front, literal.kind_eq]
      rw [if_pos kind]
      exact yields_next_bind_iff.mpr (yields_pure_iff.mpr ⟨rfl, rfl⟩)
    | value sum =>
      obtain ⟨given, typed⟩ := exists_hasType fits
      rw [if_neg (current_ne_text front)]
      exact yields_bind_iff.mpr ⟨given, _,
        yields_expression_iff.mpr ⟨sum, front, typed, rfl, whole⟩,
        yields_pure_iff.mpr ⟨rfl, rfl⟩⟩

theorem yields_output_iff :
    Yields output session clause after ↔
      ∃ tree : Output, tree.tokens <+: session.stream.ahead ∧
        tree.shown.Fits session.symbols.scope ∧ (Guarded.output tree).clause = clause ∧
        session.pass tree.tokens.length = after := by
  unfold output
  simp only [yields_opening_bind_iff, yields_expect_bind_iff, ne_eq, reduceCtorEq,
    not_false_eq_true]
  constructor
  · rintro ⟨word, wordFront, sign, signFront, run⟩
    obtain ⟨nothing, between, showed, run⟩ := yields_bind_iff.mp run
    obtain ⟨shown, shownFront, fits, rfl, -⟩ := yields_shown_iff.mp showed
    obtain ⟨semicolon, semicolonFront, closed⟩ := yields_expectSemicolon_bind_iff.mp run
    obtain ⟨rfl, rfl⟩ := yields_close_iff.mp closed
    have front : (Output.mk word sign shown semicolon).tokens <+: session.stream.ahead :=
      framed_isPrefix_iff.mpr ⟨wordFront, signFront, shownFront, semicolonFront⟩
    have passed := passed_framed session word.token sign.token semicolon.token shown.tokens
    refine ⟨⟨word, sign, shown, semicolon⟩, front, fits, ?_, passed.symm⟩
    rw [Session.current_of_isPrefix wordFront, passed]
    exact (Session.clause_pass front .output word.token.span.start).symm
  · rintro ⟨⟨word, sign, shown, semicolon⟩, front, fits, rfl, rfl⟩
    obtain ⟨wordFront, signFront, shownFront, semicolonFront⟩ := framed_isPrefix_iff.mp front
    have whole : IsWhole (((session.pass 1).pass 1).pass shown.tokens.length) shown := by
      cases shown with
      | text literal => trivial
      | value sum =>
        unfold IsWhole
        rw [Session.current_of_isPrefix semicolonFront, semicolon.kind_eq]
        simp [IsSign]
    have passed := passed_framed session word.token sign.token semicolon.token shown.tokens
    refine ⟨word, wordFront, sign, signFront, yields_bind_iff.mpr ⟨(), _,
      yields_shown_iff.mpr ⟨shown, shownFront, fits, rfl, whole⟩, ?_⟩⟩
    refine yields_expectSemicolon_bind_iff.mpr ⟨semicolon, semicolonFront,
      yields_close_iff.mpr ⟨?_, passed⟩⟩
    rw [Session.current_of_isPrefix wordFront, passed]
    exact Session.clause_pass front .output word.token.span.start

/-! ### The choices by lookahead -/

theorem kindAt_one_of_isPrefix {first second : Token} {more : List Token}
    (front : first :: second :: more <+: session.stream.ahead) :
    session.stream.kindAt 1 = second.kind := by
  obtain ⟨rest, shape⟩ := front
  unfold TokenStream.kindAt
  rw [← shape]
  rfl

/-- The token behind the identifier chooses without loss: a declaration has a colon there and
an assignment the assignment sign. -/
theorem yields_identifierStatement_iff :
    Yields identifierStatement session clause after ↔
      Yields declaration session clause after ∨ Yields assignment session clause after := by
  unfold identifierStatement
  rw [yields_get_bind_iff]
  constructor
  · intro run
    split at run
    · exact Or.inl run
    · exact Or.inr run
    · exact absurd (yields_next_bind_iff.mp run) not_yields_refuse
  · rintro (declared | assigned)
    · obtain ⟨tree, front, -⟩ := yields_declaration_iff.mp declared
      rw [kindAt_one_of_isPrefix front, tree.colon.kind_eq]
      exact declared
    · obtain ⟨tree, front, -⟩ := yields_assignment_iff.mp assigned
      rw [kindAt_one_of_isPrefix front, tree.sign.kind_eq]
      exact assigned

/-- What a conditional guards is an assignment or an output. -/
theorem yields_guarded_iff :
    Yields guarded session clause after ↔
      ∃ tree : Guarded, tree.tokens <+: session.stream.ahead ∧
        tree.Fits session.symbols.scope ∧ tree.clause = clause ∧
        session.pass tree.tokens.length = after := by
  unfold guarded
  rw [yields_get_bind_iff]
  constructor
  · intro run
    split at run
    · split at run
      · exact absurd run not_yields_fail
      · rename_i noColon
        rcases yields_identifierStatement_iff.mp run with declared | assigned
        · obtain ⟨tree, front, -⟩ := yields_declaration_iff.mp declared
          rw [kindAt_one_of_isPrefix front, tree.colon.kind_eq] at noColon
          exact absurd rfl noColon
        · obtain ⟨tree, front, fits, same, passed⟩ := yields_assignment_iff.mp assigned
          exact ⟨.assignment tree, front, fits, same, passed⟩
    · obtain ⟨tree, front, fits, same, passed⟩ := yields_output_iff.mp run
      exact ⟨.output tree, front, fits, same, passed⟩
    · exact absurd run not_yields_fail
    · exact absurd run not_yields_refuse
  · rintro ⟨tree, front, fits, same, passed⟩
    cases tree with
    | assignment tree =>
      have assigned := yields_assignment_iff.mpr ⟨tree, front, fits, same, passed⟩
      rw [Session.current_of_isPrefix front, tree.target.kind_eq, kindAt_one_of_isPrefix front,
        tree.sign.kind_eq]
      exact yields_identifierStatement_iff.mpr (Or.inr assigned)
    | output tree =>
      rw [Session.current_of_isPrefix front, tree.word.kind_eq]
      exact yields_output_iff.mpr ⟨tree, front, fits, same, passed⟩

/-! ### Conditionals -/

theorem yields_enter_bind_iff {Value : Type} {phase : Phase} {step : Unit → Step Value}
    {value : Value} :
    Yields (enter phase >>= step) session value after ↔
      Yields (step ()) { session with phase := phase } value after :=
  Iff.rfl

theorem yields_beginStatement_bind_iff {Value : Type} {step : Unit → Step Value}
    {value : Value} :
    Yields (beginStatement >>= step) session value after ↔
      Yields (step ()) session.beginStatement value after :=
  Iff.rfl

theorem current_eq_head {tree : Guarded} (front : tree.tokens <+: session.stream.ahead) :
    session.current = tree.head := by
  cases tree with
  | assignment tree => exact Session.current_of_isPrefix front
  | output tree => exact Session.current_of_isPrefix front

theorem yields_body_iff :
    Yields body session clause after ↔
      ∃ tree : Guarded, tree.tokens <+: session.stream.ahead ∧
        tree.Fits session.symbols.scope ∧ tree.clause = clause ∧
        (session.pass tree.tokens.length).leave tree.head.span.start = after := by
  unfold body
  rw [yields_enter_bind_iff, yields_beginStatement_bind_iff, yields_bind_iff]
  constructor
  · rintro ⟨inner, between, guards, run⟩
    obtain ⟨tree, front, fits, rfl, rfl⟩ := yields_guarded_iff.mp guards
    rw [yields_enter_bind_iff, yields_pure_iff] at run
    obtain ⟨rfl, rfl⟩ := run
    refine ⟨tree, front, fits, rfl, ?_⟩
    rw [← current_eq_head front]
    rfl
  · rintro ⟨tree, front, fits, rfl, rfl⟩
    refine ⟨tree.clause, _, yields_guarded_iff.mpr ⟨tree, front, fits, rfl, rfl⟩, ?_⟩
    rw [← current_eq_head front]
    exact yields_enter_bind_iff.mpr (yields_pure_iff.mpr ⟨rfl, rfl⟩)

theorem conditional_isPrefix_iff {tree : Conditional} {ahead : List Token} :
    tree.tokens <+: ahead ↔
      [tree.word.token] <+: ahead ∧ [tree.left.token] <+: ahead.drop 1 ∧
        tree.condition.tokens <+: (ahead.drop 1).drop 1 ∧
        [tree.right.token] <+: ((ahead.drop 1).drop 1).drop tree.condition.tokens.length ∧
        tree.body.tokens <+:
          (((ahead.drop 1).drop 1).drop tree.condition.tokens.length).drop 1 := by
  show tree.word.token :: tree.left.token ::
    (tree.condition.tokens ++ tree.right.token :: tree.body.tokens) <+: ahead ↔ _
  refine cons_isPrefix_iff.trans (and_congr_right fun _ => ?_)
  refine cons_isPrefix_iff.trans (and_congr_right fun _ => ?_)
  exact append_isPrefix_iff.trans (and_congr_right fun _ => cons_isPrefix_iff)

theorem passed_conditional (tree : Conditional) :
    ((((session.pass 1).pass 1).pass tree.condition.tokens.length).pass 1).pass
      tree.body.tokens.length = session.pass tree.tokens.length := by
  simp only [Session.pass_pass, Conditional.tokens_eq_header_append, Conditional.header,
    List.length_append, List.length_cons, List.length_nil]

/-- What a conditional yields once its tokens were passed. -/
theorem statement_conditional {tree : Conditional} {start : Position}
    (front : tree.tokens <+: session.stream.ahead) :
    Statement.mk (((session.pass tree.tokens.length).leave start).clause .conditional
        session.stream.index tree.word.token.span.start) (some tree.body.clause) =
      (Form.conditional tree).statement := by
  obtain ⟨inside, shape⟩ : ∃ inside, tree.body.tokens = inside ++ [tree.body.last] := by
    cases tree.body with
    | assignment body => exact ⟨_, rfl⟩
    | output body => exact ⟨_, rfl⟩
  have ends : tree.tokens = (tree.header ++ inside) ++ [tree.body.last] := by
    rw [Conditional.tokens_eq_header_append, shape, List.append_assoc]
  have closed := Session.clause_pass (ends ▸ front) .conditional tree.word.token.span.start
  rw [← ends] at closed
  exact congrArg (fun clause => Statement.mk clause (some tree.body.clause)) closed

theorem yields_conditional_iff {value : Statement} :
    Yields conditional session value after ↔
      ∃ tree : Conditional, tree.tokens <+: session.stream.ahead ∧
        tree.Fits session.symbols.scope ∧ (Form.conditional tree).statement = value ∧
        (session.pass tree.tokens.length).leave tree.body.head.span.start = after := by
  unfold conditional
  simp only [yields_opening_bind_iff, yields_expect_bind_iff, ne_eq, reduceCtorEq,
    not_false_eq_true]
  constructor
  · rintro ⟨word, wordFront, left, leftFront, run⟩
    obtain ⟨nothing, between, compared, run⟩ := yields_bind_iff.mp run
    obtain ⟨condition, conditionFront, conditionFits, rfl⟩ := yields_condition_iff.mp compared
    obtain ⟨right, rightFront, run⟩ := (yields_expect_bind_iff (by decide)).mp run
    obtain ⟨inner, between, guards, run⟩ := yields_bind_iff.mp run
    obtain ⟨body, bodyFront, bodyFits, rfl, rfl⟩ := yields_body_iff.mp guards
    obtain ⟨outer, between, closed, run⟩ := yields_bind_iff.mp run
    obtain ⟨rfl, rfl⟩ := yields_close_iff.mp closed
    obtain ⟨rfl, rfl⟩ := yields_pure_iff.mp run
    have front : (Conditional.mk word left condition right body).tokens <+:
        session.stream.ahead :=
      conditional_isPrefix_iff.mpr ⟨wordFront, leftFront, conditionFront, rightFront, bodyFront⟩
    refine ⟨⟨word, left, condition, right, body⟩, front, ⟨conditionFits, bodyFits⟩, ?_, ?_⟩
    · rw [passed_conditional ⟨word, left, condition, right, body⟩,
        Session.current_of_isPrefix wordFront]
      exact (statement_conditional front).symm
    · rw [passed_conditional ⟨word, left, condition, right, body⟩]
  · rintro ⟨⟨word, left, condition, right, body⟩, front, ⟨conditionFits, bodyFits⟩, rfl, rfl⟩
    obtain ⟨wordFront, leftFront, conditionFront, rightFront, bodyFront⟩ :=
      conditional_isPrefix_iff.mp front
    refine ⟨word, wordFront, left, leftFront, yields_bind_iff.mpr ⟨(), _,
      yields_condition_iff.mpr ⟨condition, conditionFront, conditionFits, rfl⟩, ?_⟩⟩
    refine (yields_expect_bind_iff (by decide)).mpr ⟨right, rightFront, yields_bind_iff.mpr
      ⟨body.clause, _, yields_body_iff.mpr ⟨body, bodyFront, bodyFits, rfl, rfl⟩,
      yields_bind_iff.mpr ⟨_, _, yields_close_iff.mpr ⟨rfl, rfl⟩,
      yields_pure_iff.mpr ⟨?_, ?_⟩⟩⟩⟩
    · rw [passed_conditional ⟨word, left, condition, right, body⟩,
        Session.current_of_isPrefix wordFront]
      exact statement_conditional front
    · rw [passed_conditional ⟨word, left, condition, right, body⟩]

/-! ### Statements -/

/-- The productions of the language, by the first token of a statement. -/
def grammarProductions : TokenKind → Option Production
  | .identifier => some .identifier
  | .outputWord => some .output
  | .ifWord => some .conditional
  | _ => none

theorem registerGrammar_productions (tokens : List Token) (file : String) :
    (Session.start tokens file).registerGrammar.productions = grammarProductions := by
  funext kind
  cases kind <;> rfl

theorem yields_alone_iff {step : Step Clause} {value : Statement} :
    Yields (alone step) session value after ↔
      ∃ clause, Yields step session clause after ∧ clause.alone = value := by
  unfold alone
  rw [yields_bind_iff]
  constructor
  · rintro ⟨clause, between, passed, run⟩
    obtain ⟨rfl, rfl⟩ := yields_pure_iff.mp run
    exact ⟨clause, passed, rfl⟩
  · rintro ⟨clause, passed, rfl⟩
    exact ⟨clause, after, passed, yields_pure_iff.mpr ⟨rfl, rfl⟩⟩

theorem declaration_fits_iff {table : SymbolTable} (tree : Declaration) :
    (Form.declaration tree).Fits table.scope ↔ table.find? tree.name.token.value = none :=
  Option.eq_none_iff_forall_ne_some.symm

theorem past_declaration {tree : Declaration} (front : tree.tokens <+: session.stream.ahead) :
    session.past (.declaration tree) =
      { session.beginStatement.pass tree.tokens.length with
        symbols := (Form.declaration tree).extend session.symbols } := by
  unfold Session.beginStatement
  rw [Session.current_of_isPrefix front]
  rfl

theorem past_simple {tree : Guarded} (front : tree.tokens <+: session.stream.ahead) :
    session.past (.simple tree) = session.beginStatement.pass tree.tokens.length := by
  unfold Session.beginStatement
  rw [current_eq_head front]
  rfl

theorem grammarProductions_cases {kind : TokenKind} {production : Production}
    (chosen : grammarProductions kind = some production) :
    kind = .identifier ∧ .identifier = production ∨ kind = .outputWord ∧ .output = production ∨
      kind = .ifWord ∧ .conditional = production := by
  unfold grammarProductions at chosen
  split at chosen <;> simp_all

/-- The statement at the current token is checked by the production that its kind chooses. -/
theorem statement_run (registered : session.productions = grammarProductions) :
    statement session =
      (match grammarProductions session.current.kind with
        | some production => follow production
        | none => refuseStatement) session.beginStatement := by
  rw [← registered]
  rfl

/-- The kind of the current token decides what is checked as a statement. -/
theorem statement_cases (registered : session.productions = grammarProductions) :
    session.current.kind = .identifier ∧
        statement session = alone identifierStatement session.beginStatement ∨
      session.current.kind = .outputWord ∧
        statement session = alone output session.beginStatement ∨
      session.current.kind = .ifWord ∧ statement session = conditional session.beginStatement ∨
      grammarProductions session.current.kind = none ∧
        statement session = refuseStatement session.beginStatement := by
  have run := statement_run registered
  cases chosen : grammarProductions session.current.kind with
  | none =>
    rw [chosen] at run
    exact Or.inr (Or.inr (Or.inr ⟨rfl, run⟩))
  | some production =>
    rw [chosen] at run
    rcases grammarProductions_cases chosen with ⟨name, rfl⟩ | ⟨word, rfl⟩ | ⟨word, rfl⟩
    · exact Or.inl ⟨name, run⟩
    · exact Or.inr (Or.inl ⟨word, run⟩)
    · exact Or.inr (Or.inr (Or.inl ⟨word, run⟩))

/-- Whatever is checked as a statement is a statement tree that fits. -/
theorem exists_form_of_yields (registered : session.productions = grammarProductions)
    {value : Statement} (run : Yields statement session value after) :
    ∃ form : Form, form.tokens <+: session.stream.ahead ∧ form.Fits session.symbols.scope ∧
      form.statement = value ∧ session.past form = after := by
  unfold Yields at run
  rcases statement_cases registered with
    ⟨-, same⟩ | ⟨-, same⟩ | ⟨-, same⟩ | ⟨-, same⟩ <;> rw [same] at run
  · obtain ⟨clause, inner, rfl⟩ := yields_alone_iff.mp run
    rcases yields_identifierStatement_iff.mp inner with declared | assigned
    · obtain ⟨tree, front, fresh, rfl, rfl⟩ := yields_declaration_iff.mp declared
      refine ⟨.declaration tree, front, (declaration_fits_iff tree).mpr fresh, rfl, ?_⟩
      exact past_declaration front
    · obtain ⟨tree, front, fits, rfl, rfl⟩ := yields_assignment_iff.mp assigned
      refine ⟨.simple (.assignment tree), front, fits, rfl, ?_⟩
      exact past_simple front
  · obtain ⟨clause, inner, rfl⟩ := yields_alone_iff.mp run
    obtain ⟨tree, front, fits, rfl, rfl⟩ := yields_output_iff.mp inner
    refine ⟨.simple (.output tree), front, fits, rfl, ?_⟩
    exact past_simple front
  · obtain ⟨tree, front, fits, rfl, rfl⟩ := yields_conditional_iff.mp run
    exact ⟨.conditional tree, front, fits, rfl, rfl⟩
  · exact absurd run not_yields_refuse

/-- Every statement tree that fits is checked. -/
theorem yields_statement_of_form (registered : session.productions = grammarProductions)
    {form : Form} (front : form.tokens <+: session.stream.ahead)
    (fits : form.Fits session.symbols.scope) :
    Yields statement session form.statement (session.past form) := by
  unfold Yields
  rw [statement_run registered]
  cases form with
  | declaration tree =>
    have fresh := (declaration_fits_iff tree).mp fits
    rw [Session.current_of_isPrefix front, tree.name.kind_eq, past_declaration front]
    exact yields_alone_iff.mpr ⟨tree.clause, yields_identifierStatement_iff.mpr
      (Or.inl (yields_declaration_iff.mpr ⟨tree, front, fresh, rfl, rfl⟩)), rfl⟩
  | simple guarded =>
    rw [current_eq_head front, past_simple front]
    cases guarded with
    | assignment tree =>
      rw [Guarded.head, tree.target.kind_eq]
      exact yields_alone_iff.mpr ⟨_, yields_identifierStatement_iff.mpr
        (Or.inr (yields_assignment_iff.mpr ⟨tree, front, fits, rfl, rfl⟩)), rfl⟩
    | output tree =>
      rw [Guarded.head, tree.word.kind_eq]
      exact yields_alone_iff.mpr ⟨_, yields_output_iff.mpr ⟨tree, front, fits, rfl, rfl⟩, rfl⟩
  | conditional tree =>
    rw [Session.current_of_isPrefix front, tree.word.kind_eq]
    exact yields_conditional_iff.mpr ⟨tree, front, fits, rfl, rfl⟩

end Step

end HLang
