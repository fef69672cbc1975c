/-
This file follows a session over a statement that was cut off. Behind a part of its tokens stands
the end of the input, or text that is not of the language. Whichever step meets such a barrier
refuses it, and says of it what it is: every step that expects a token passes it on to the same
diagnosis, the lookahead behind an identifier takes it for nothing else, and a sum that ends there
leaves it to the missing semicolon.

The tokens before the cut are those of a statement that fits, so no step has a fault of its own to
report before it meets the barrier.
-/

import HLang.Proofs.Session.Branches
import HLang.Proofs.Session.Junctures

namespace HLang

open Grammar

/-! ### Barriers -/

/-- Whether tokens of the kind stand in no statement: the end of the input, and text that is not of
the language. -/
def IsBarrier (kind : TokenKind) : Prop :=
  kind = .unknown ∨ kind = .endOfInput

instance (kind : TokenKind) : Decidable (IsBarrier kind) :=
  inferInstanceAs (Decidable (kind = .unknown ∨ kind = .endOfInput))

/-- The fault of meeting the barrier, which says what kind of barrier it is. -/
inductive BarredBy (token : Token) : Fault → Prop
  | unknown (kind : token.kind = .unknown) : BarredBy token (.unrecognisedToken token.value)
  | ended (kind : token.kind = .endOfInput) (expected : String) :
    BarredBy token (.unexpectedEndOfInput expected)

namespace Session

/-- The tokens stand at the front of the tokens ahead, and behind them stands a barrier. -/
structure CutBehind (session : Session) (tokens : List Token) : Prop where
  front : tokens <+: session.stream.ahead
  barrier : IsBarrier (session.pass tokens.length).current.kind

variable {session : Session}

theorem CutBehind.append {first second : List Token} (cut : session.CutBehind (first ++ second)) :
    (session.pass first.length).CutBehind second := by
  refine ⟨(append_isPrefix_iff.mp cut.front).2, ?_⟩
  have barrier := cut.barrier
  rw [List.length_append, ← pass_pass] at barrier
  exact barrier

theorem barredBy_unexpected (barrier : IsBarrier session.current.kind) (expected : String) :
    BarredBy session.current (session.unexpected expected).fault := by
  rcases barrier with kind | kind
  · unfold unexpected
    rw [kind]
    exact .unknown kind
  · unfold unexpected
    rw [kind]
    exact .ended kind expected

theorem missingSemicolon_of_barrier (barrier : IsBarrier session.current.kind) :
    session.missingSemicolon = session.unexpected TokenKind.semicolon.describe := by
  unfold missingSemicolon
  rcases barrier with kind | kind <;> rw [kind]

end Session

/-- What two lists begin with ends within the first or goes on in the second. -/
theorem isPrefix_append_cases {Element : Type} {front first second : List Element}
    (inside : front <+: first ++ second) :
    front <+: first ∧ front ≠ first ∨ ∃ later, front = first ++ later ∧ later <+: second := by
  have behind (later : List Element) (shape : front = first ++ later) :
      ∃ later, front = first ++ later ∧ later <+: second :=
    ⟨later, shape, (List.prefix_append_right_inj first).mp (shape ▸ inside)⟩
  rcases List.prefix_or_prefix_of_prefix inside (List.prefix_append first second) with
    within | ⟨later, shape⟩
  · by_cases whole : front = first
    · exact Or.inr (behind [] (by rw [whole, List.append_nil]))
    · exact Or.inl ⟨within, whole⟩
  · exact Or.inr (behind later shape.symm)

namespace Step

/-! ### Steps that meet a barrier -/

variable {Value First Second : Type} {session : Session} {count : Nat}

/-- The step fails at a barrier behind the given number of tokens. -/
def HaltsAt (count : Nat) (step : Step Value) (session : Session) : Prop :=
  ∃ diagnosis after, Fails step session diagnosis after ∧
    after.stream = session.stream.pass count ∧ BarredBy after.current diagnosis.fault

/-- Wherever the tokens are cut off before they are complete, the step fails at the cut. -/
def HaltsWithin (tokens : List Token) (step : Step Value) (session : Session) : Prop :=
  ∀ front, front <+: tokens → front ≠ tokens → session.CutBehind front →
    HaltsAt front.length step session

namespace HaltsAt

theorem bind {first : Step First} {second : First → Step Second}
    (halts : HaltsAt count first session) : HaltsAt count (first >>= second) session := by
  obtain ⟨diagnosis, after, failed, stream, barred⟩ := halts
  exact ⟨diagnosis, after, fails_bind_iff.mpr (Or.inl failed), stream, barred⟩

/-- A step that runs like another one further on halts at the same barrier. -/
theorem further {step other : Step Value} {passed : Nat}
    (halts : HaltsAt count other (session.pass passed))
    (same : step session = other (session.pass passed)) :
    HaltsAt (passed + count) step session := by
  obtain ⟨diagnosis, after, failed, stream, barred⟩ := halts
  refine ⟨diagnosis, after, same.trans failed, ?_, barred⟩
  exact stream.trans (TokenStream.pass_pass session.stream passed count)

theorem behind {first : Step First} {second : First → Step Second} {value : First} {passed : Nat}
    (halts : HaltsAt count (second value) (session.pass passed))
    (yields : Yields first session value (session.pass passed)) :
    HaltsAt (passed + count) (first >>= second) session :=
  halts.further yields.bind_run

/-- Steps with the same run over the same tokens halt at the same barrier. -/
theorem congr {step other : Step Value} {start : Session} (halts : HaltsAt count other start)
    (stream : start.stream = session.stream) (same : step session = other start) :
    HaltsAt count step session := by
  obtain ⟨diagnosis, after, failed, moved, barred⟩ := halts
  exact ⟨diagnosis, after, same.trans failed, stream ▸ moved, barred⟩

end HaltsAt

namespace HaltsWithin

variable {tokens rest : List Token}

theorem bind {first : Step First} {second : First → Step Second} {value : First}
    (halts : HaltsWithin tokens first session)
    (yields : tokens <+: session.stream.ahead →
      Yields first session value (session.pass tokens.length))
    (later : HaltsWithin rest (second value) (session.pass tokens.length)) :
    HaltsWithin (tokens ++ rest) (first >>= second) session := by
  intro front inside proper cut
  rcases isPrefix_append_cases inside with ⟨within, other⟩ | ⟨more, rfl, within⟩
  · exact (halts front within other cut).bind
  · have other : more ≠ rest := fun same => proper (congrArg (tokens ++ ·) same)
    rw [List.length_append]
    exact (later more within other cut.append).behind (yields (append_isPrefix_iff.mp cut.front).1)

/-- A step that passes nothing does not come in the way. -/
theorem stay {first : Step First} {second : First → Step Second} {value : First}
    (yields : Yields first session value session)
    (later : HaltsWithin tokens (second value) session) :
    HaltsWithin tokens (first >>= second) session := by
  intro front inside proper cut
  have passed : Yields first session value (session.pass 0) := yields
  have halts := HaltsAt.behind (later front inside proper cut) passed
  rwa [Nat.zero_add] at halts

/-- A step for one token meets a barrier in its place. -/
theorem single {step : Step Value} {token : Token}
    (halts : IsBarrier session.current.kind → HaltsAt 0 step session) :
    HaltsWithin [token] step session := by
  intro front inside proper cut
  cases front with
  | nil => exact halts cut.barrier
  | cons first more =>
    obtain ⟨rfl, rest⟩ := List.cons_prefix_cons.mp inside
    exact absurd (congrArg (first :: ·) (List.prefix_nil.mp rest)) proper

end HaltsWithin

theorem haltsAt_refuse {expected : String} (barrier : IsBarrier session.current.kind) :
    HaltsAt 0 (refuse expected : Step Value) session :=
  ⟨_, session, rfl, rfl, Session.barredBy_unexpected barrier expected⟩

theorem haltsAt_expectOr {kind : TokenKind} (plain : ¬ IsBarrier kind)
    {otherwise : Session → Diagnosis} (barrier : IsBarrier session.current.kind)
    (barred : BarredBy session.current (otherwise session).fault) :
    HaltsAt 0 (expectOr kind otherwise) session := by
  have other : session.current.kind ≠ kind := fun same => plain (same ▸ barrier)
  refine ⟨otherwise session, session, ?_, rfl, barred⟩
  unfold Fails
  rw [expectOr_run, if_neg other]

theorem haltsAt_expectSemicolon (barrier : IsBarrier session.current.kind) :
    HaltsAt 0 expectSemicolon session := by
  refine haltsAt_expectOr (by decide) barrier ?_
  rw [Session.missingSemicolon_of_barrier barrier]
  exact Session.barredBy_unexpected barrier _

/-- Expecting a leaf, and then the tokens behind it. -/
theorem haltsWithin_expect_bind {kind : TokenKind} {step : Token → Step Value} (leaf : Leaf [kind])
    {rest : List Token} (plain : ¬ IsBarrier kind)
    (later : HaltsWithin rest (step leaf.token) (session.pass 1)) :
    HaltsWithin (leaf.token :: rest) (expect kind >>= step) session := by
  have halts : HaltsWithin [leaf.token] (expect kind) session := .single fun barrier =>
    haltsAt_expectOr plain barrier (Session.barredBy_unexpected barrier _)
  exact halts.bind (yields_expect_of_isPrefix leaf fun isEnd => plain (Or.inr isEnd)) later

/-- The first two tokens of a statement, and then the tokens behind them. -/
theorem haltsWithin_opening_bind {firstKind secondKind : TokenKind}
    {step : Opening → Token → Token → Step Value} (first : Leaf [firstKind])
    (second : Leaf [secondKind]) {rest : List Token}
    (plain : ¬ IsBarrier firstKind ∧ ¬ IsBarrier secondKind)
    (later : HaltsWithin rest
      (step ⟨session.current.span.start, session.stream.index⟩ first.token second.token)
      ((session.pass 1).pass 1)) :
    HaltsWithin (first.token :: second.token :: rest)
      (opening >>= fun place => expect firstKind >>= fun token =>
        expect secondKind >>= step place token) session := by
  refine .stay (yields_opening session) ?_
  refine haltsWithin_expect_bind first plain.1 ?_
  exact haltsWithin_expect_bind second plain.2 later

/-! ### Operands and expressions -/

theorem literal_of_barrier (barrier : IsBarrier session.current.kind) :
    literal session = refuse "a numeric literal" session := by
  unfold literal
  rw [get_bind_run]
  rcases barrier with kind | kind <;> rw [kind]

theorem operand_of_barrier (barrier : IsBarrier session.current.kind) :
    operand session = refuse "an identifier or numeric literal" session := by
  unfold operand
  rw [get_bind_run]
  rcases barrier with kind | kind <;> rw [kind]

theorem operand_of_dash (dash : session.current.kind = .dash) :
    operand session = (next >>= fun _ => literal) session := by
  unfold operand
  rw [get_bind_run, dash]

theorem haltsAt_operand (barrier : IsBarrier session.current.kind) : HaltsAt 0 operand session :=
  (haltsAt_refuse barrier).congr rfl (operand_of_barrier barrier)

/-- A minus sign needs a number behind it. -/
theorem haltsWithin_operand (tree : Operand) : HaltsWithin tree.tokens operand session := by
  cases tree with
  | named name => exact .single haltsAt_operand
  | number numeral => exact .single haltsAt_operand
  | negative sign numeral =>
    intro front inside proper cut
    have parts : front <+: [sign.token] ++ [numeral.token] := inside
    rcases isPrefix_append_cases parts with ⟨within, other⟩ | ⟨more, rfl, within⟩
    · exact HaltsWithin.single haltsAt_operand front within other cut
    · have other : more ≠ [numeral.token] := fun same => proper (congrArg (sign.token :: ·) same)
      have dash : session.current.kind = .dash := by
        rw [Session.current_of_isPrefix cut.front, sign.kind_eq]
      have passed : Yields next session session.current (session.pass 1) :=
        yields_next_iff.mpr ⟨rfl, rfl⟩
      have halts : HaltsWithin [numeral.token] literal (session.pass 1) := .single fun barrier =>
        (haltsAt_refuse barrier).congr rfl (literal_of_barrier barrier)
      rw [List.length_append]
      refine HaltsAt.congr (HaltsAt.behind ?_ passed) rfl (operand_of_dash dash)
      exact halts more within other cut.append

/-- Where the tokens are cut off, the step fails, or it succeeds there and leaves the barrier to
the step behind it. -/
def StopsWithin (tokens : List Token) (step : Step Value) (session : Session) : Prop :=
  ∀ front, front <+: tokens → session.CutBehind front →
    HaltsAt front.length step session ∨
      ∃ value, Yields step session value (session.pass front.length)

theorem StopsWithin.behind {first : Step First} {second : First → Step Second} {value : First}
    {tokens rest : List Token} (halts : HaltsWithin tokens first session)
    (yields : tokens <+: session.stream.ahead →
      Yields first session value (session.pass tokens.length))
    (later : StopsWithin rest (second value) (session.pass tokens.length)) :
    StopsWithin (tokens ++ rest) (first >>= second) session := by
  intro front inside cut
  rcases isPrefix_append_cases inside with ⟨within, other⟩ | ⟨more, rfl, within⟩
  · exact Or.inl (halts front within other cut).bind
  · have passed := yields (append_isPrefix_iff.mp cut.front).1
    rw [List.length_append]
    rcases later more within cut.append with halts | ⟨final, yieldsLater⟩
    · exact Or.inl (halts.behind passed)
    · rw [← Session.pass_pass]
      exact Or.inr ⟨final, yields_bind_iff.mpr ⟨value, _, passed, yieldsLater⟩⟩

theorem not_isSign_of_barrier {kind : TokenKind} (barrier : IsBarrier kind) : ¬ IsSign kind := by
  rcases barrier with rfl | rfl <;> simp [IsSign]

theorem stopsWithin_operand_bind {tree : Operand} {step : ScalarType → Step Value}
    {rest : List Token} (inScope : tree.InScope session.symbols.scope)
    (later : ∀ type, StopsWithin rest (step type) (session.pass tree.tokens.length)) :
    StopsWithin (tree.tokens ++ rest) (operand >>= step) session := by
  obtain ⟨type, typed⟩ := inScope
  exact .behind (haltsWithin_operand tree)
    (fun front => yields_operand_iff.mpr ⟨tree, front, typed, rfl⟩) (later type)

/-- The loop over the summands stops at the cut, wherever that is. A sign at the cut has to be
there, so a barrier in its place ends the sum. -/
theorem stopsWithin_sumFrom {more : List Summand}
    (inScope : ∀ summand ∈ more, summand.operand.InScope session.symbols.scope)
    (left : ScalarType) :
    StopsWithin (more.flatMap Summand.tokens) (sumFrom left) session := by
  induction more generalizing session left with
  | nil =>
    intro front inside cut
    obtain rfl := List.prefix_nil.mp inside
    exact Or.inr ⟨left, sumFrom_of_noSign (not_isSign_of_barrier cut.barrier)⟩
  | cons summand more inductionHypothesis =>
    intro front inside cut
    cases front with
    | nil => exact Or.inr ⟨left, sumFrom_of_noSign (not_isSign_of_barrier cut.barrier)⟩
    | cons token rest =>
      obtain ⟨rfl, within⟩ := List.cons_prefix_cons.mp inside
      have sign : IsSign session.current.kind := by
        rw [Session.current_of_isPrefix cut.front]
        exact summand.sign.kind_eq_or
      have later : StopsWithin (summand.operand.tokens ++ more.flatMap Summand.tokens)
          (operand >>= fun right => sumFrom (left.widen right)) (session.pass 1) := by
        refine stopsWithin_operand_bind ?_ fun right => inductionHypothesis ?_ (left.widen right)
        · exact inScope summand List.mem_cons_self
        · exact fun other member => inScope other (List.mem_cons_of_mem summand member)
      have cutLater : session.CutBehind ([summand.sign.token] ++ rest) := cut
      rw [List.length_cons, Nat.add_comm]
      rcases later rest within cutLater.append with halts | ⟨type, yields⟩
      · exact Or.inl (halts.further (sumFrom_of_sign sign))
      · rw [← Session.pass_pass]
        exact Or.inr ⟨type, (sumFrom_of_sign sign).trans yields⟩

theorem stopsWithin_expression {sum : Sum} (inScope : sum.InScope session.symbols.scope) :
    StopsWithin sum.tokens expression session := by
  refine stopsWithin_operand_bind (inScope sum.first List.mem_cons_self) fun left =>
    stopsWithin_sumFrom ?_ left
  exact fun summand member =>
    inScope _ (List.mem_cons_of_mem sum.first (List.mem_map_of_mem member))

/-- A step that stops at the cut, and the semicolon that is missed there. -/
theorem StopsWithin.expectSemicolon {step : Step First} {tokens : List Token} {last : Token}
    {finish : First → Token → Step Value} (stops : StopsWithin tokens step session) :
    HaltsWithin (tokens ++ [last])
      (step >>= fun value => Step.expectSemicolon >>= finish value) session := by
  intro front inside proper cut
  have within := (List.prefix_concat_iff.mp inside).resolve_left proper
  rcases stops front within cut with halts | ⟨value, yields⟩
  · exact halts.bind
  · show HaltsAt (front.length + 0) _ session
    refine HaltsAt.behind ?_ yields
    exact (haltsAt_expectSemicolon cut.barrier).bind

/-- No expression begins with a string literal. -/
theorem kind_ne_text_of_cons_isPrefix {sum : Sum} {token : Token} {rest : List Token}
    (front : token :: rest <+: sum.tokens) : token.kind ≠ .stringLiteral := by
  obtain ⟨first, more⟩ := sum
  cases first with
  | named name =>
    obtain ⟨rfl, -⟩ := List.cons_prefix_cons.mp front
    rw [name.kind_eq]
    decide
  | number numeral =>
    obtain ⟨rfl, -⟩ := List.cons_prefix_cons.mp front
    rcases numeral.kind_eq_or with kind | kind <;> rw [kind] <;> decide
  | negative sign numeral =>
    obtain ⟨rfl, -⟩ := List.cons_prefix_cons.mp front
    rw [sign.kind_eq]
    decide

theorem stopsWithin_shown {tree : Shown} (fits : tree.Fits session.symbols.scope) :
    StopsWithin tree.tokens shown session := by
  intro front inside cut
  have barrierNoText (barrier : IsBarrier session.current.kind) :
      session.current.kind ≠ .stringLiteral := by
    rcases barrier with kind | kind <;> rw [kind] <;> decide
  cases tree with
  | text literal =>
    cases front with
    | nil =>
      have halts : HaltsAt 0 expression session := (haltsAt_operand cut.barrier).bind
      exact Or.inl (halts.bind.congr rfl (shown_of_expression (barrierNoText cut.barrier)))
    | cons token rest =>
      obtain ⟨rfl, within⟩ := List.cons_prefix_cons.mp inside
      obtain rfl := List.prefix_nil.mp within
      exact Or.inr ⟨(), yields_shown_iff.mpr ⟨.text literal, cut.front, trivial, rfl, trivial⟩⟩
  | value sum =>
    have noText : session.current.kind ≠ .stringLiteral := by
      cases front with
      | nil => exact barrierNoText cut.barrier
      | cons token rest =>
        rw [Session.current_of_isPrefix cut.front]
        exact kind_ne_text_of_cons_isPrefix inside
    rcases stopsWithin_expression fits front inside cut with halts | ⟨type, yields⟩
    · exact Or.inl (halts.bind.congr rfl (shown_of_expression noText))
    · refine Or.inr ⟨(), (shown_of_expression noText).trans ?_⟩
      exact yields_bind_iff.mpr ⟨type, _, yields, rfl⟩

/-! ### Declarations, assignments and outputs -/

theorem typeName_of_barrier (barrier : IsBarrier session.current.kind) :
    typeName session = refuse "a type (`integer` or `double`)" session := by
  unfold typeName
  rw [get_bind_run]
  rcases barrier with kind | kind <;> rw [kind] <;> rfl

theorem haltsWithin_declaration (tree : Declaration) :
    HaltsWithin tree.tokens declaration session := by
  refine haltsWithin_opening_bind tree.name tree.colon (by decide) ?_
  have typed : HaltsWithin [tree.word.token] typeName ((session.pass 1).pass 1) :=
    .single fun barrier => (haltsAt_refuse barrier).congr rfl (typeName_of_barrier barrier)
  refine typed.bind (fun front => yields_typeName_iff.mpr ⟨tree.word, front, rfl, rfl⟩) ?_
  exact .single fun barrier => (haltsAt_expectSemicolon barrier).bind

theorem haltsWithin_assignment {tree : Assignment} (fits : tree.Fits session.symbols.scope) :
    HaltsWithin tree.tokens assignment session := by
  obtain ⟨type, declared⟩ := fits.target
  refine haltsWithin_opening_bind tree.target tree.sign (by decide) ?_
  refine .stay (yields_lookUp_iff.mpr ⟨declared, rfl⟩) ?_
  refine StopsWithin.expectSemicolon (stopsWithin_expression ?_)
  exact fits.value

theorem haltsWithin_output {tree : Output} (fits : tree.shown.Fits session.symbols.scope) :
    HaltsWithin tree.tokens output session := by
  refine haltsWithin_opening_bind tree.word tree.sign (by decide) ?_
  refine StopsWithin.expectSemicolon (stopsWithin_shown ?_)
  exact fits

/-- A barrier behind the identifier is taken for neither sign, and is refused in its place. -/
theorem identifierStatement_of_barrier (barrier : IsBarrier (session.stream.kindAt 1)) :
    identifierStatement session =
      (next >>= fun _ => refuse "`:` or `:=` after the identifier") session := by
  unfold identifierStatement
  rw [get_bind_run]
  rcases barrier with kind | kind <;> rw [kind]

/-- Behind the first token, the second one stands, or the barrier does. -/
theorem kindAt_one_of_cut {first second : Token} {more rest : List Token}
    (inside : first :: rest <+: first :: second :: more)
    (cut : session.CutBehind (first :: rest)) :
    session.stream.kindAt 1 = second.kind ∨ rest = [] ∧ IsBarrier (session.stream.kindAt 1) := by
  cases rest with
  | nil =>
    refine Or.inr ⟨rfl, ?_⟩
    rw [← kind_current_pass_one]
    exact cut.barrier
  | cons token rest =>
    obtain ⟨-, later⟩ := List.cons_prefix_cons.mp inside
    obtain ⟨rfl, -⟩ := List.cons_prefix_cons.mp later
    exact Or.inl (kindAt_one_of_isPrefix cut.front)

/-- Once its identifier is there, a declaration or an assignment halts at the cut, because the sign
that chooses between them is there as well or the barrier is. -/
theorem haltsAt_identifierStatement {step : Step Clause} {name second : Token}
    {more rest : List Token} (inside : name :: rest <+: name :: second :: more)
    (cut : session.CutBehind (name :: rest))
    (chosen : session.stream.kindAt 1 = second.kind → identifierStatement session = step session)
    (halts : HaltsAt (name :: rest).length step session) :
    HaltsAt (name :: rest).length identifierStatement session := by
  rcases kindAt_one_of_cut inside cut with sign | ⟨rfl, barrier⟩
  · exact halts.congr rfl (chosen sign)
  · have passed : Yields next session session.current (session.pass 1) :=
      yields_next_iff.mpr ⟨rfl, rfl⟩
    have refused : HaltsAt (1 + 0)
        (next >>= fun _ => refuse "`:` or `:=` after the identifier" : Step Clause) session := by
      refine HaltsAt.behind ?_ passed
      exact haltsAt_refuse cut.barrier
    exact refused.congr rfl (identifierStatement_of_barrier barrier)

/-! ### Conditionals -/

theorem guarded_of_barrier (barrier : IsBarrier session.current.kind) :
    guarded session =
      refuse "an assignment or output statement after the If condition" session := by
  unfold guarded
  rw [get_bind_run]
  rcases barrier with kind | kind <;> rw [kind]

theorem haltsWithin_guarded {tree : Guarded} (fits : tree.Fits session.symbols.scope) :
    HaltsWithin tree.tokens guarded session := by
  intro front inside proper cut
  cases front with
  | nil => exact (haltsAt_refuse cut.barrier).congr rfl (guarded_of_barrier cut.barrier)
  | cons token rest =>
    cases tree with
    | assignment tree =>
      obtain ⟨rfl, -⟩ := List.cons_prefix_cons.mp inside
      have name : session.current.kind = .identifier := by
        rw [Session.current_of_isPrefix cut.front, tree.target.kind_eq]
      have noColon : session.stream.kindAt 1 ≠ .colon := by
        rcases kindAt_one_of_cut inside cut with sign | ⟨-, barrier⟩
        · rw [sign, tree.sign.kind_eq]
          decide
        · rcases barrier with kind | kind <;> rw [kind] <;> decide
      refine HaltsAt.congr ?_ rfl (guarded_of_identifier name noColon)
      refine haltsAt_identifierStatement inside cut (fun sign => ?_)
        (haltsWithin_assignment fits _ inside proper cut)
      exact identifierStatement_of_colonEquals (sign.trans tree.sign.kind_eq)
    | output tree =>
      obtain ⟨rfl, -⟩ := List.cons_prefix_cons.mp inside
      have word : session.current.kind = .outputWord := by
        rw [Session.current_of_isPrefix cut.front, tree.word.kind_eq]
      exact (haltsWithin_output fits _ inside proper cut).congr rfl (guarded_of_outputWord word)

theorem haltsWithin_body {tree : Guarded} (fits : tree.Fits session.symbols.scope) :
    HaltsWithin tree.tokens body session := by
  intro front inside proper cut
  have entered : body session =
      (guarded >>= fun clause => enter .scanning >>= fun _ => pure clause) session.enterBody := rfl
  have halts : HaltsAt front.length guarded session.enterBody := by
    refine haltsWithin_guarded ?_ front inside proper ⟨cut.front, cut.barrier⟩
    exact fits
  exact halts.bind.congr rfl entered

theorem relation_of_barrier (barrier : IsBarrier session.current.kind) :
    relation session = refuse "a relational operator" session := by
  unfold relation
  rw [get_bind_run]
  rcases barrier with kind | kind <;> rw [kind] <;> rfl

theorem haltsWithin_condition {tree : Condition} (fits : tree.Fits session.symbols.scope) :
    HaltsWithin tree.tokens condition session := by
  obtain ⟨type, declared⟩ := fits.1
  refine haltsWithin_expect_bind tree.subject (by decide) ?_
  refine .stay (yields_lookUp_iff.mpr ⟨declared, rfl⟩) ?_
  have related : HaltsWithin [tree.relation.token] relation (session.pass 1) :=
    .single fun barrier => (haltsAt_refuse barrier).congr rfl (relation_of_barrier barrier)
  refine related.bind (fun front => yields_relation_iff.mpr ⟨tree.relation, front, rfl, rfl⟩) ?_
  intro front inside proper cut
  exact (haltsWithin_operand tree.operand front inside proper cut).bind

theorem haltsWithin_conditional {tree : Conditional} (fits : tree.Fits session.symbols.scope) :
    HaltsWithin tree.tokens conditional session := by
  refine haltsWithin_opening_bind tree.word tree.left (by decide) ?_
  have compared (front : tree.condition.tokens <+: ((session.pass 1).pass 1).stream.ahead) :
      Yields condition ((session.pass 1).pass 1) ()
        (((session.pass 1).pass 1).pass tree.condition.tokens.length) :=
    yields_condition_iff.mpr ⟨tree.condition, front, fits.1, rfl⟩
  show HaltsWithin (tree.condition.tokens ++ tree.right.token :: tree.body.tokens) _ _
  refine HaltsWithin.bind (haltsWithin_condition ?_) compared ?_
  · exact fits.1
  refine haltsWithin_expect_bind tree.right (by decide) ?_
  intro front inside proper cut
  refine (haltsWithin_body ?_ front inside proper cut).bind
  exact fits.2

/-! ### Statements -/

/-- No statement begins at a barrier. -/
theorem haltsAt_statement (registered : session.productions = grammarProductions)
    (barrier : IsBarrier session.current.kind) : HaltsAt 0 statement session := by
  have refused : statement session = refuseStatement session.beginStatement := by
    rw [statement_run registered]
    rcases barrier with kind | kind <;> rw [kind] <;> rfl
  have begun : IsBarrier session.beginStatement.current.kind := barrier
  exact (haltsAt_refuse begun).congr rfl refused

/-- A statement that fits halts where it is cut off. -/
theorem haltsWithin_statement (registered : session.productions = grammarProductions) {form : Form}
    (fits : form.Fits session.symbols.scope) : HaltsWithin form.tokens statement session := by
  intro front inside proper cut
  cases front with
  | nil => exact haltsAt_statement registered cut.barrier
  | cons token rest =>
    have current : session.current = token := Session.current_of_isPrefix cut.front
    have begun : session.beginStatement.CutBehind (token :: rest) := ⟨cut.front, cut.barrier⟩
    have begunFits : form.Fits session.beginStatement.symbols.scope := fits
    have halts (production : Production) (kind : grammarProductions token.kind = some production)
        (follows : HaltsAt (token :: rest).length (follow production) session.beginStatement) :
        HaltsAt (token :: rest).length statement session :=
      follows.congr rfl (statement_of_chosen registered (current ▸ kind))
    cases form with
    | declaration tree =>
      obtain ⟨rfl, -⟩ := List.cons_prefix_cons.mp inside
      refine halts .identifier (by rw [tree.name.kind_eq]; rfl) (HaltsAt.bind ?_)
      refine haltsAt_identifierStatement inside begun (fun colon => ?_)
        (haltsWithin_declaration tree _ inside proper begun)
      exact identifierStatement_of_colon (colon.trans tree.colon.kind_eq)
    | simple tree =>
      cases tree with
      | assignment tree =>
        obtain ⟨rfl, -⟩ := List.cons_prefix_cons.mp inside
        refine halts .identifier (by rw [tree.target.kind_eq]; rfl) (HaltsAt.bind ?_)
        refine haltsAt_identifierStatement inside begun (fun sign => ?_)
          (haltsWithin_assignment begunFits _ inside proper begun)
        exact identifierStatement_of_colonEquals (sign.trans tree.sign.kind_eq)
      | output tree =>
        obtain ⟨rfl, -⟩ := List.cons_prefix_cons.mp inside
        refine halts .output (by rw [tree.word.kind_eq]; rfl) (HaltsAt.bind ?_)
        exact haltsWithin_output begunFits _ inside proper begun
    | conditional tree =>
      obtain ⟨rfl, -⟩ := List.cons_prefix_cons.mp inside
      refine halts .conditional (by rw [tree.word.kind_eq]; rfl) ?_
      exact haltsWithin_conditional begunFits _ inside proper begun

end Step

end HLang
