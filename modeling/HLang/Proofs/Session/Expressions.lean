/-
This file proves the productions for expressions right: each succeeds exactly if a tree of the
grammar stands at the front of the tokens ahead whose variables are declared, and it then passes
the tokens of that tree and no others. Both directions are in each statement, so no production
accepts too much or too little. Expressions need one thing more, because they have no token
that closes them: the token behind an expression is no sign.
-/

import HLang.Proofs.Grammar.Scope
import HLang.Proofs.Session.Passing
import HLang.Session.Expression

namespace HLang.Step

open Grammar

variable {session after : Session} {type : ScalarType}

/-! ### Leaves -/

variable {Value : Type} {step : Token → Step Value} {value : Value}

/-- Expecting a token is finding a leaf. -/
theorem yields_expectOr_bind_iff {kind : TokenKind} (notEnd : kind ≠ .endOfInput)
    {otherwise : Session → Diagnosis} :
    Yields (expectOr kind otherwise >>= step) session value after ↔
      ∃ leaf : Leaf [kind], [leaf.token] <+: session.stream.ahead ∧
        Yields (step leaf.token) (session.pass 1) value after := by
  rw [yields_bind_iff]
  constructor
  · rintro ⟨token, between, expected, run⟩
    obtain ⟨found, front, rfl⟩ := (yields_expectOr_iff notEnd).mp expected
    exact ⟨⟨token, List.mem_singleton.mpr found⟩, front, run⟩
  · rintro ⟨leaf, front, run⟩
    exact ⟨leaf.token, _, (yields_expectOr_iff notEnd).mpr ⟨leaf.kind_eq, front, rfl⟩, run⟩

theorem yields_expect_bind_iff {kind : TokenKind} (notEnd : kind ≠ .endOfInput) :
    Yields (expect kind >>= step) session value after ↔
      ∃ leaf : Leaf [kind], [leaf.token] <+: session.stream.ahead ∧
        Yields (step leaf.token) (session.pass 1) value after :=
  yields_expectOr_bind_iff notEnd

theorem yields_expectSemicolon_bind_iff :
    Yields (expectSemicolon >>= step) session value after ↔
      ∃ leaf : Leaf [.semicolon], [leaf.token] <+: session.stream.ahead ∧
        Yields (step leaf.token) (session.pass 1) value after :=
  yields_expectOr_bind_iff (by decide)

/-! ### Operands -/

theorem yields_literal_iff :
    Yields literal session type after ↔
      ∃ numeral : Numeral, [numeral.token] <+: session.stream.ahead ∧ numeral.type = type ∧
        session.pass 1 = after := by
  unfold literal
  rw [yields_get_bind_iff]
  constructor
  · intro run
    split at run
    · rename_i kind
      rw [yields_next_bind_iff, yields_pure_iff] at run
      obtain ⟨rfl, rfl⟩ := run
      refine ⟨⟨session.current, by simp [kind]⟩, ?_, ?_, rfl⟩
      · exact Session.current_isPrefix (by simp [kind])
      · exact if_pos kind
    · rename_i kind
      rw [yields_next_bind_iff, yields_pure_iff] at run
      obtain ⟨rfl, rfl⟩ := run
      refine ⟨⟨session.current, by simp [kind]⟩, ?_, ?_, rfl⟩
      · exact Session.current_isPrefix (by simp [kind])
      · exact if_neg (by simp [kind])
    · exact absurd run not_yields_refuse
  · rintro ⟨numeral, front, rfl, rfl⟩
    have current : session.current = numeral.token := Session.current_of_isPrefix front
    unfold Numeral.type
    rcases numeral.kind_eq_or with kind | kind
    · rw [current, kind, if_pos rfl]
      exact yields_next_bind_iff.mpr (yields_pure_iff.mpr ⟨rfl, rfl⟩)
    · rw [current, kind, if_neg (by decide)]
      exact yields_next_bind_iff.mpr (yields_pure_iff.mpr ⟨rfl, rfl⟩)

/-- An operand of the grammar, with the type it has in the session. -/
theorem yields_operand_iff :
    Yields operand session type after ↔
      ∃ tree : Operand, tree.tokens <+: session.stream.ahead ∧
        tree.HasType session.symbols.scope type ∧ session.pass tree.tokens.length = after := by
  unfold operand
  rw [yields_get_bind_iff]
  constructor
  · intro run
    split at run
    · rename_i kind
      obtain ⟨known, rfl⟩ := yields_lookUp_iff.mp (yields_next_bind_iff.mp run)
      refine ⟨.named ⟨session.current, by simp [kind]⟩, ?_, known, rfl⟩
      exact Session.current_isPrefix (by simp [kind])
    · obtain ⟨numeral, front, typed, rfl⟩ := yields_literal_iff.mp run
      exact ⟨.number numeral, front, typed, rfl⟩
    · obtain ⟨numeral, front, typed, rfl⟩ := yields_literal_iff.mp run
      exact ⟨.number numeral, front, typed, rfl⟩
    · rename_i kind
      obtain ⟨numeral, front, typed, rfl⟩ := yields_literal_iff.mp (yields_next_bind_iff.mp run)
      refine ⟨.negative ⟨session.current, by simp [kind]⟩ numeral, ?_, typed, ?_⟩
      · exact cons_isPrefix_iff.mpr ⟨Session.current_isPrefix (by simp [kind]), front⟩
      · exact (Session.pass_pass session 1 1).symm
    · exact absurd run not_yields_fail
    · exact absurd run not_yields_refuse
  · rintro ⟨tree, front, typed, rfl⟩
    cases tree with
    | named name =>
      rw [Session.current_of_isPrefix front, name.kind_eq]
      refine yields_next_bind_iff.mpr ?_
      rw [Session.current_of_isPrefix front]
      exact yields_lookUp_iff.mpr ⟨typed, rfl⟩
    | number numeral =>
      rw [Session.current_of_isPrefix front]
      rcases numeral.kind_eq_or with kind | kind
      · rw [kind]
        exact yields_literal_iff.mpr ⟨numeral, front, typed, rfl⟩
      · rw [kind]
        exact yields_literal_iff.mpr ⟨numeral, front, typed, rfl⟩
    | negative sign numeral =>
      rw [Session.current_of_isPrefix front, sign.kind_eq]
      refine yields_next_bind_iff.mpr (yields_literal_iff.mpr ⟨numeral, ?_, typed, ?_⟩)
      · exact (cons_isPrefix_iff.mp front).2
      · exact Session.pass_pass session 1 1

/-! ### Expressions -/

/-- Whether tokens of the kind join two operands. -/
def IsSign (kind : TokenKind) : Prop :=
  kind = .plus ∨ kind = .dash

/-- The summands stand at the front of the tokens ahead, as many as there are, and widen the
type `left` to `type`. -/
structure Continues (session : Session) (left : ScalarType) (more : List Summand)
    (type : ScalarType) (after : Session) : Prop where
  front : more.flatMap Summand.tokens <+: session.stream.ahead
  inScope : ∀ summand ∈ more, summand.operand.InScope session.symbols.scope
  typed : type = .double ↔ left = .double ∨
    ∃ summand ∈ more, summand.operand.HasType session.symbols.scope .double
  passed : session.pass (more.flatMap Summand.tokens).length = after
  ended : ¬ IsSign after.current.kind

theorem widen_eq_double_iff {left right : ScalarType} :
    left.widen right = .double ↔ left = .double ∨ right = .double := by
  unfold ScalarType.widen
  split <;> simp_all

theorem hasType_double_iff {table : SymbolTable} {tree : Operand}
    (typed : tree.HasType table.scope type) :
    tree.HasType table.scope .double ↔ type = .double := by
  cases tree with
  | named name =>
    show table.find? name.token.value = some .double ↔ type = .double
    rw [show table.find? name.token.value = some type from typed, Option.some.injEq]
  | number numeral => rw [← show numeral.type = type from typed]; exact Iff.rfl
  | negative sign numeral => rw [← show numeral.type = type from typed]; exact Iff.rfl

/-- Going on past one summand is going on behind it, with the type widened by its operand. -/
theorem continues_cons_iff {left right : ScalarType} {summand : Summand} {more : List Summand}
    (front : summand.tokens <+: session.stream.ahead)
    (typed : summand.operand.HasType session.symbols.scope right) :
    Continues session left (summand :: more) type after ↔
      Continues (session.pass summand.tokens.length) (left.widen right) more type after := by
  have widened : (left = .double ∨ ∃ other ∈ summand :: more,
        other.operand.HasType session.symbols.scope .double) ↔
      (left.widen right = .double ∨ ∃ other ∈ more,
        other.operand.HasType session.symbols.scope .double) := by
    simp only [List.mem_cons, exists_eq_or_imp, hasType_double_iff typed, widen_eq_double_iff,
      or_assoc]
  have length : ((summand :: more).flatMap Summand.tokens).length =
      summand.tokens.length + (more.flatMap Summand.tokens).length := by
    rw [List.flatMap_cons, List.length_append]
  constructor
  · intro continues
    refine ⟨?_, fun other member => ?_, continues.typed.trans widened, ?_, continues.ended⟩
    · have whole := continues.front
      rw [List.flatMap_cons, append_isPrefix_iff] at whole
      exact whole.2
    · exact continues.inScope other (List.mem_cons_of_mem summand member)
    · rw [Session.pass_pass, ← length]
      exact continues.passed
  · intro continues
    refine ⟨?_, fun other member => ?_, continues.typed.trans widened.symm, ?_, continues.ended⟩
    · rw [List.flatMap_cons, append_isPrefix_iff]
      exact ⟨front, continues.front⟩
    · rcases List.mem_cons.mp member with rfl | later
      · exact ⟨right, typed⟩
      · exact continues.inScope other later
    · rw [length, ← Session.pass_pass]
      exact continues.passed

theorem Continues.noSign {left : ScalarType} (continues : Continues session left [] type after) :
    ¬ IsSign session.current.kind := by
  have same : session = after := continues.passed
  rw [same]
  exact continues.ended

theorem Continues.summand_isPrefix {left : ScalarType} {summand : Summand} {more : List Summand}
    (continues : Continues session left (summand :: more) type after) :
    summand.tokens <+: session.stream.ahead := by
  have whole := continues.front
  rw [List.flatMap_cons, append_isPrefix_iff] at whole
  exact whole.1

/-- If there is a summand to go on with, its operand is read behind its sign. -/
theorem Continues.yields_operand {left : ScalarType} {summand : Summand} {more : List Summand}
    (continues : Continues session left (summand :: more) type after) :
    ∃ right, summand.operand.HasType session.symbols.scope right ∧
      Yields operand session.advance right (session.pass summand.tokens.length) := by
  have found := cons_isPrefix_iff.mp continues.summand_isPrefix
  obtain ⟨right, typed⟩ := continues.inScope summand List.mem_cons_self
  refine ⟨right, typed, yields_operand_iff.mpr ⟨summand.operand, ?_, typed, ?_⟩⟩
  · rw [Session.advance_eq_pass]
    exact found.2
  · rw [Session.advance_eq_pass, Session.pass_pass, Summand.tokens, List.length_cons, Nat.add_comm]

/-- The loop over the summands: a sign goes on to a further operand, and no choice of summands can
do without it. -/
theorem yields_sumFrom_iff {left : ScalarType} :
    Yields (sumFrom left) session type after ↔
      ∃ more, Continues session left more type after := by
  show sumFrom left session = (.ok type, after) ↔ _
  fun_induction sumFrom left session with
  | case1 left session sign right between run inductionHypothesis =>
    refine Iff.trans inductionHypothesis ?_
    constructor
    · rintro ⟨more, continues⟩
      obtain ⟨tree, front, typed, rfl⟩ := yields_operand_iff.mp run
      have joined : session.current.kind ∈ [TokenKind.plus, TokenKind.dash] := by simpa using sign
      have signFront : [session.current] <+: session.stream.ahead :=
        Session.current_isPrefix (by rcases sign with kind | kind <;> simp [kind])
      rw [Session.advance_eq_pass] at front typed continues
      refine ⟨⟨⟨session.current, joined⟩, tree⟩ :: more, (continues_cons_iff ?_ typed).mpr ?_⟩
      · exact cons_isPrefix_iff.mpr ⟨signFront, front⟩
      · rw [Summand.tokens, List.length_cons, Nat.add_comm, ← Session.pass_pass]
        exact continues
    · rintro ⟨more, continues⟩
      cases more with
      | nil => exact absurd sign continues.noSign
      | cons summand more =>
        obtain ⟨other, typed, again⟩ := continues.yields_operand
        obtain ⟨rfl, rfl⟩ := ok_eq_ok_iff.mp (run.symm.trans again)
        exact ⟨more, (continues_cons_iff continues.summand_isPrefix typed).mp continues⟩
  | case2 left session sign diagnosis between run =>
    refine ⟨fun failed => absurd failed error_ne_ok, ?_⟩
    rintro ⟨more, continues⟩
    cases more with
    | nil => exact absurd sign continues.noSign
    | cons summand more =>
      obtain ⟨other, typed, again⟩ := continues.yields_operand
      exact absurd (run.symm.trans again) error_ne_ok
  | case3 left session noSign =>
    constructor
    · intro stays
      obtain ⟨rfl, rfl⟩ := ok_eq_ok_iff.mp stays
      exact ⟨[], List.nil_prefix, by simp, by simp, rfl, noSign⟩
    · rintro ⟨more, continues⟩
      cases more with
      | nil =>
        have typed : type = .double ↔ left = .double := by simpa using continues.typed
        have same : left = type := by cases left <;> cases type <;> simp_all
        exact ok_eq_ok_iff.mpr ⟨same, continues.passed⟩
      | cons summand more =>
        have found := cons_isPrefix_iff.mp continues.summand_isPrefix
        rw [Session.current_of_isPrefix found.1] at noSign
        exact absurd summand.sign.kind_eq_or noSign

/-- An expression of the grammar, with the type it has in the session, up to a token that does
not go on with it. -/
theorem yields_expression_iff :
    Yields expression session type after ↔
      ∃ tree : Sum, tree.tokens <+: session.stream.ahead ∧
        tree.HasType session.symbols.scope type ∧ session.pass tree.tokens.length = after ∧
        ¬ IsSign after.current.kind := by
  unfold expression
  rw [yields_bind_iff]
  constructor
  · rintro ⟨left, between, passed, run⟩
    obtain ⟨first, front, typed, rfl⟩ := yields_operand_iff.mp passed
    obtain ⟨more, continues⟩ := yields_sumFrom_iff.mp run
    refine ⟨⟨first, more⟩, ?_, ⟨?_, ?_⟩, ?_, continues.ended⟩
    · exact append_isPrefix_iff.mpr ⟨front, continues.front⟩
    · intro operand member
      rcases List.mem_cons.mp member with rfl | later
      · exact ⟨left, typed⟩
      · obtain ⟨summand, among, rfl⟩ := List.mem_map.mp later
        exact continues.inScope summand among
    · rw [continues.typed, Sum.exists_operand_iff, hasType_double_iff typed]
      exact Iff.rfl
    · rw [Sum.tokens, List.length_append, ← Session.pass_pass]
      exact continues.passed
  · rintro ⟨⟨first, more⟩, front, ⟨inScope, typed⟩, rfl, ended⟩
    obtain ⟨firstFront, moreFront⟩ := append_isPrefix_iff.mp front
    obtain ⟨left, firstTyped⟩ := inScope first List.mem_cons_self
    refine ⟨left, _, yields_operand_iff.mpr ⟨first, firstFront, firstTyped, rfl⟩, ?_⟩
    refine yields_sumFrom_iff.mpr ⟨more, moreFront, fun summand member => ?_, ?_, ?_, ended⟩
    · exact inScope _ (List.mem_cons_of_mem first (List.mem_map_of_mem member))
    · rw [typed, Sum.exists_operand_iff, hasType_double_iff firstTyped]
      exact Iff.rfl
    · rw [Sum.tokens, List.length_append, ← Session.pass_pass]

/-! ### Conditions -/

theorem isRelational_iff {kind : TokenKind} :
    kind.isRelational = true ↔
      kind ∈ [TokenKind.less, .lessEquals, .greater, .greaterEquals, .equals, .notEquals] := by
  cases kind <;> decide

theorem yields_relation_iff {token : Token} :
    Yields relation session token after ↔
      ∃ tree : Relation, [tree.token] <+: session.stream.ahead ∧ tree.token = token ∧
        session.pass 1 = after := by
  unfold relation
  rw [yields_get_bind_iff]
  constructor
  · intro run
    split at run
    · rename_i relational
      obtain ⟨rfl, rfl⟩ := yields_next_iff.mp run
      refine ⟨⟨session.current, isRelational_iff.mp relational⟩, ?_, rfl, rfl⟩
      exact Session.current_isPrefix fun isEnd => by simp [isEnd] at relational; cases relational
    · exact absurd run not_yields_refuse
  · rintro ⟨tree, front, rfl, rfl⟩
    rw [Session.current_of_isPrefix front, if_pos (isRelational_iff.mpr tree.allowed)]
    exact yields_next_iff.mpr ⟨Session.current_of_isPrefix front, rfl⟩

theorem yields_condition_iff {value : Unit} :
    Yields condition session value after ↔
      ∃ tree : Condition, tree.tokens <+: session.stream.ahead ∧
        tree.Fits session.symbols.scope ∧ session.pass tree.tokens.length = after := by
  unfold condition
  rw [yields_expect_bind_iff (by decide)]
  constructor
  · rintro ⟨subject, subjectFront, run⟩
    obtain ⟨known, between, found, run⟩ := yields_bind_iff.mp run
    obtain ⟨declared, rfl⟩ := yields_lookUp_iff.mp found
    obtain ⟨sign, between, related, run⟩ := yields_bind_iff.mp run
    obtain ⟨relation, relationFront, rfl, rfl⟩ := yields_relation_iff.mp related
    obtain ⟨type, between, compared, run⟩ := yields_bind_iff.mp run
    obtain ⟨operand, operandFront, typed, rfl⟩ := yields_operand_iff.mp compared
    obtain ⟨-, rfl⟩ := yields_pure_iff.mp run
    refine ⟨⟨subject, relation, operand⟩, ?_, ⟨⟨known, declared⟩, ⟨type, typed⟩⟩, ?_⟩
    · exact cons_isPrefix_iff.mpr ⟨subjectFront, cons_isPrefix_iff.mpr
        ⟨relationFront, by simpa using operandFront⟩⟩
    · simp only [Session.pass_pass, Condition.tokens, List.length_append, List.length_cons,
        List.length_nil]
  · rintro ⟨⟨subject, relation, operand⟩, front, ⟨⟨known, declared⟩, ⟨type, typed⟩⟩, rfl⟩
    obtain ⟨subjectFront, front⟩ := cons_isPrefix_iff.mp front
    obtain ⟨relationFront, operandFront⟩ := cons_isPrefix_iff.mp front
    refine ⟨subject, subjectFront, yields_bind_iff.mpr
      ⟨known, _, yields_lookUp_iff.mpr ⟨declared, rfl⟩, yields_bind_iff.mpr
      ⟨relation.token, _, yields_relation_iff.mpr ⟨relation, relationFront, rfl, rfl⟩,
      yields_bind_iff.mpr ⟨type, _, yields_operand_iff.mpr ⟨operand, ?_, typed, rfl⟩, ?_⟩⟩⟩⟩
    · simpa using operandFront
    · refine yields_pure_iff.mpr ⟨rfl, ?_⟩
      simp only [Session.pass_pass, Condition.tokens, List.length_append, List.length_cons,
        List.length_nil]

end HLang.Step
