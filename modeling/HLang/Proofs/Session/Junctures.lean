/-
This file follows the checker along the junctures of a program. Whatever a step passes can be read
from the juncture where it begins. If the step succeeds, the juncture behind is the one that the
grammar has there; if it fails, and not for a reason of scope or type, no program goes on with the
current token. So the checker gives up at the first token that cannot be read, and not behind it.

There is one exception to "the current token": a declaration in the body of a conditional is
refused at its identifier, and only the colon behind it is out of place.
-/

import HLang.Proofs.Grammar.Juncture
import HLang.Proofs.Session.Statements

namespace HLang.Step

open Grammar

variable {Value First Second : Type} {session between : Session} {here there : Juncture}
  {goal middle : Juncture → Session → Prop}

/-! ### Following the reading -/

/-- No program that has led to the juncture goes on with the current token, or ends there if the
input does. In the body of a conditional an identifier may be the current token, but then the
colon behind it cannot come next. -/
def Stuck (here : Juncture) (session : Session) : Prop :=
  here.next session.current.kind = none ∧
      (session.current.kind = .endOfInput → here ≠ .start) ∨
    here = .body ∧ session.current.kind = .identifier ∧ session.stream.kindAt 1 = .colon

/-- What came of a step that began in the session, at the juncture: the tokens passed can be read,
and where they lead, a success has reached the goal and a failure is stuck, unless its reason is
scope or type. -/
def Leads (session : Session) (here : Juncture) (goal : Juncture → Session → Prop)
    (run : Except Diagnosis Value × Session) : Prop :=
  ∃ count there, run.2.stream = session.stream.pass count ∧
    here.read (kinds (session.stream.ahead.take count)) = some there ∧
    match run.1 with
    | .ok _ => goal there run.2
    | .error diagnosis => diagnosis.fault.category = .semantic ∨ Stuck there run.2

/-- The step follows the reading from the juncture, when it begins in the session. -/
def Follows (step : Step Value) (session : Session) (here : Juncture)
    (goal : Juncture → Session → Prop) : Prop :=
  Leads session here goal (step session)

/-- The goal of reaching a certain juncture. -/
def At (goal : Juncture) : Juncture → Session → Prop :=
  fun there _ => there = goal

theorem stuck_of_next_eq_none (inside : here ≠ .start)
    (none : here.next session.current.kind = none) : Stuck here session :=
  Or.inl ⟨none, fun _ => inside⟩

/-- Where only some kinds can come next, any other current token is stuck. -/
theorem stuck_of_only {allowed : List TokenKind} (inside : here ≠ .start)
    (due : ∀ kind, here.next kind = Juncture.only allowed there kind)
    (other : session.current.kind ∉ allowed) : Stuck here session :=
  stuck_of_next_eq_none inside ((due _).trans (if_neg other))

namespace Leads

/-- A success that passes nothing. -/
theorem stay {value : Value} (same : between.stream = session.stream)
    (reached : goal here between) : Leads session here goal (.ok value, between) :=
  ⟨0, here, same, rfl, reached⟩

/-- A failure at the current token. -/
theorem halt {diagnosis : Diagnosis}
    (reason : diagnosis.fault.category = .semantic ∨ Stuck here session) :
    Leads session here goal ((.error diagnosis, session) : Except Diagnosis Value × Session) :=
  ⟨0, here, rfl, rfl, reason⟩

variable {run : Except Diagnosis Value × Session}

/-- What began in a session further on also began in the session before. -/
theorem further {count : Nat} (moved : between.stream = session.stream.pass count)
    (reads : here.read (kinds (session.stream.ahead.take count)) = some there)
    (later : Leads between there goal run) : Leads session here goal run := by
  obtain ⟨more, final, movedOn, readsOn, outcome⟩ := later
  have ahead : between.stream.ahead = session.stream.ahead.drop count :=
    congrArg TokenStream.ahead moved
  refine ⟨count + more, final, ?_, ?_, outcome⟩
  · rw [movedOn, moved, TokenStream.pass_pass]
  · rw [List.take_add, kinds, List.map_append, Juncture.read_append, reads, ← ahead]
    exact readsOn

theorem andThen {value : First} (first : Leads session here middle (.ok value, between))
    (later : ∀ there, middle there between → Leads between there goal run) :
    Leads session here goal run := by
  obtain ⟨count, there, moved, reads, reached⟩ := first
  exact (later there reached).further moved reads

/-- A failure reaches no goal, so it may be any. -/
theorem failed {diagnosis : Diagnosis}
    (first : Leads session here middle
      ((.error diagnosis, between) : Except Diagnosis First × Session)) :
    Leads session here goal ((.error diagnosis, between) : Except Diagnosis Value × Session) :=
  first

/-- What began behind the current token also began at it, if the token leads there. -/
theorem pass (leads : here.next session.current.kind = some there)
    (later : Leads (session.pass 1) there goal run) : Leads session here goal run := by
  have notEnd : session.current.kind ≠ .endOfInput := by
    intro ended
    rw [ended, Juncture.next_endOfInput] at leads
    exact absurd leads (by simp)
  have front := List.prefix_iff_eq_take.mp (Session.current_isPrefix notEnd)
  refine later.further rfl ?_
  rw [← show [session.current] = session.stream.ahead.take 1 from front]
  exact (Juncture.read_cons _ _ _).trans (by rw [leads]; rfl)

end Leads

theorem Follows.bind {first : Step First} {second : First → Step Second}
    (firstFollows : Follows first session here middle)
    (secondFollows : ∀ value between there, Yields first session value between →
      middle there between → Follows (second value) between there goal) :
    Follows (first >>= second) session here goal := by
  unfold Follows at firstFollows ⊢
  rw [bind_run]
  rcases run : first session with ⟨diagnosis | value, between⟩
  · rw [run] at firstFollows
    exact firstFollows.failed
  · rw [run] at firstFollows
    exact firstFollows.andThen fun there reached =>
      secondFollows value between there run reached

/-! ### The moves -/

theorem follows_pure {value : Value} (reached : goal here session) :
    Follows (pure value) session here goal :=
  .stay rfl reached

theorem follows_refuse {expected : String} (stuck : Stuck here session) :
    Follows (refuse expected : Step Value) session here goal :=
  .halt (Or.inr stuck)

theorem follows_fail {fault : Fault}
    (reason : fault.category = .semantic ∨ Stuck here session) :
    Follows (fail fault : Step Value) session here goal :=
  .halt reason

theorem follows_get_bind {step : Session → Step Value}
    (later : Follows (step session) session here goal) :
    Follows (get >>= step) session here goal :=
  later

theorem follows_next (there : Juncture) (leads : here.next session.current.kind = some there)
    (reached : goal there (session.pass 1)) : Follows next session here goal := by
  unfold Follows
  rw [next_run, Session.advance_eq_pass]
  exact Leads.pass leads (.stay rfl reached)

theorem follows_next_bind {step : Token → Step Value} (there : Juncture)
    (leads : here.next session.current.kind = some there)
    (later : Follows (step session.current) (session.pass 1) there goal) :
    Follows (next >>= step) session here goal := by
  unfold Follows
  rw [bind_run, next_run, Session.advance_eq_pass]
  exact later.pass leads

theorem follows_expectOr_bind {kind : TokenKind} {otherwise : Session → Diagnosis}
    {step : Token → Step Value} (there : Juncture) (leads : here.next kind = some there)
    (stuck : session.current.kind ≠ kind → Stuck here session)
    (later : Follows (step session.current) (session.pass 1) there goal) :
    Follows (expectOr kind otherwise >>= step) session here goal := by
  unfold Follows
  rw [bind_run, expectOr_run, Session.advance_eq_pass]
  by_cases found : session.current.kind = kind
  · rw [if_pos found]
    exact later.pass (by rw [found]; exact leads)
  · rw [if_neg found]
    exact .halt (Or.inr (stuck found))

/-- Expecting a token of the only kind that can come next. -/
theorem follows_expect_bind {kind : TokenKind} {step : Token → Step Value} (there : Juncture)
    (inside : here ≠ .start) (due : ∀ other, here.next other = Juncture.only [kind] there other)
    (later : Follows (step session.current) (session.pass 1) there goal) :
    Follows (expect kind >>= step) session here goal := by
  refine follows_expectOr_bind there ?_ (fun other => ?_) later
  · rw [due, Juncture.only, if_pos List.mem_cons_self]
  · exact stuck_of_only inside due (by simpa using other)

theorem follows_lookUp_bind {name : String} {step : ScalarType → Step Value}
    (later : ∀ type, Follows (step type) session here goal) :
    Follows (lookUp name >>= step) session here goal := by
  unfold Follows
  rw [bind_run, lookUp_run]
  cases session.symbols.find? name with
  | some type => exact later type
  | none => exact .halt (Or.inl rfl)

theorem follows_lookUp {name : String} (reached : goal here session) :
    Follows (lookUp name) session here goal := by
  unfold Follows
  rw [lookUp_run]
  cases session.symbols.find? name with
  | some type => exact .stay rfl reached
  | none => exact .halt (Or.inl rfl)

theorem follows_declare_bind {name : String} {type : ScalarType} {step : Unit → Step Value}
    (later : ∀ symbols, Follows (step ()) { session with symbols := symbols } here goal) :
    Follows (declare name type >>= step) session here goal := by
  unfold Follows
  rw [bind_run, declare_run]
  cases declared : session.symbols.declare name type session.statementStart with
  | ok symbols => exact later symbols
  | error diagnosis =>
    obtain ⟨-, rfl⟩ := SymbolTable.declare_eq_error_iff.mp declared
    exact .halt (Or.inl rfl)

/-- The token behind the current one is current once that was passed. -/
theorem kind_current_pass_one (session : Session) :
    (session.pass 1).current.kind = session.stream.kindAt 1 := by
  unfold Session.current TokenStream.current TokenStream.kindAt
  rw [Session.ahead_pass]
  rcases session.stream.ahead with _ | ⟨first, _ | ⟨second, rest⟩⟩ <;> rfl

/-! ### Expressions -/

theorem follows_literal (there : Juncture)
    (leads : ∀ kind ∈ [TokenKind.integerLiteral, .doubleLiteral], here.next kind = some there)
    (stuck : session.current.kind ∉ [TokenKind.integerLiteral, .doubleLiteral] →
      Stuck here session) :
    Follows literal session here (At there) := by
  refine follows_get_bind ?_
  split
  · rename_i kind
    exact follows_next_bind there (leads _ (by simp [kind])) (follows_pure rfl)
  · rename_i kind
    exact follows_next_bind there (leads _ (by simp [kind])) (follows_pure rfl)
  · rename_i noInteger noDouble
    exact follows_refuse (stuck (by simpa using ⟨noInteger, noDouble⟩))

/-- A string literal is an operand nowhere; at the front of an output it is caught before. -/
theorem follows_operand (slot : Slot)
    (noText : slot = .shown → session.current.kind ≠ .stringLiteral) :
    Follows operand session (.operand slot) (At slot.behind) := by
  have numerals : ∀ kind ∈ [TokenKind.integerLiteral, .doubleLiteral],
      (Juncture.operand slot).next kind = some slot.behind := by
    cases slot <;> decide
  refine follows_get_bind ?_
  split
  · rename_i kind
    exact follows_next_bind slot.behind (by rw [kind]; rfl) (follows_lookUp rfl)
  · rename_i kind
    exact follows_literal slot.behind numerals fun other => absurd kind (by simp_all)
  · rename_i kind
    exact follows_literal slot.behind numerals fun other => absurd kind (by simp_all)
  · rename_i kind
    refine follows_next_bind (.digits slot) (by rw [kind]; rfl) ?_
    exact follows_literal slot.behind (by cases slot <;> decide)
      (stuck_of_only (by simp) fun _ => rfl)
  · rename_i kind
    refine follows_fail (Or.inr (stuck_of_next_eq_none (by simp) ?_))
    rw [kind]
    exact if_neg fun shown => noText shown kind
  · refine follows_refuse (stuck_of_next_eq_none (by simp) ?_)
    refine Option.eq_none_iff_forall_ne_some.mpr fun there leads => ?_
    rw [Juncture.next_operand_iff] at leads
    simp_all

/-- The goal of standing where a semicolon can come next, and nothing that is current but one. -/
def Closable (here : Juncture) (session : Session) : Prop :=
  here.next .semicolon = some .start ∧
    (session.current.kind ≠ .semicolon → Stuck here session)

theorem follows_expectSemicolon_bind {step : Token → Step Value}
    (closable : Closable here session)
    (later : Follows (step session.current) (session.pass 1) .start goal) :
    Follows (expectSemicolon >>= step) session here goal :=
  follows_expectOr_bind .start closable.1 closable.2 later

theorem closable_of_at_semicolon (session : Session) : Closable .semicolon session :=
  ⟨rfl, fun other => stuck_of_only (by simp) (fun _ => rfl) (by simpa using other)⟩

theorem follows_sumFrom (left : ScalarType) (session : Session) :
    Follows (sumFrom left) session .more Closable := by
  show Leads session .more Closable (sumFrom left session)
  fun_induction sumFrom left session with
  | case1 left session sign right between run inductionHypothesis =>
    have summand : Leads (session.pass 1) (.operand .sum) (At .more) (operand session.advance) := by
      rw [Session.advance_eq_pass]
      exact follows_operand .sum (by simp)
    rw [run] at summand
    refine (summand.andThen fun there reached => ?_).pass
      (by rcases sign with kind | kind <;> rw [kind] <;> rfl)
    rw [show there = .more from reached]
    exact inductionHypothesis
  | case2 left session sign diagnosis between run =>
    have summand : Leads (session.pass 1) (.operand .sum) (At .more) (operand session.advance) := by
      rw [Session.advance_eq_pass]
      exact follows_operand .sum (by simp)
    rw [run] at summand
    exact summand.failed.pass (by rcases sign with kind | kind <;> rw [kind] <;> rfl)
  | case3 left session noSign =>
    refine .stay rfl ⟨rfl, fun other => stuck_of_next_eq_none (by simp) ?_⟩
    refine Option.eq_none_iff_forall_ne_some.mpr fun there leads => ?_
    rw [Juncture.next_more_iff] at leads
    simp_all

theorem follows_expression {slot : Slot} (sums : slot.behind = .more)
    (noText : slot = .shown → session.current.kind ≠ .stringLiteral) :
    Follows expression session (.operand slot) Closable :=
  (follows_operand slot noText).bind fun left between there _ reached => by
    rw [show there = slot.behind from reached, sums]
    exact follows_sumFrom left between

theorem follows_relation (session : Session) :
    Follows relation session .relation (At (.operand .condition)) := by
  refine follows_get_bind ?_
  split
  · rename_i relational
    exact follows_next _ (if_pos (isRelational_iff.mp relational)) rfl
  · rename_i other
    refine follows_refuse (stuck_of_only (by simp) (fun _ => rfl) ?_)
    rwa [← isRelational_iff]

theorem follows_condition (session : Session) :
    Follows condition session .subject (At .right) := by
  refine follows_expect_bind .relation (by simp) (fun _ => rfl) ?_
  refine follows_lookUp_bind fun _ => ?_
  refine (follows_relation _).bind fun _ between there _ reached => ?_
  rw [show there = .operand .condition from reached]
  exact (follows_operand .condition (by simp)).bind fun _ _ _ _ reached =>
    follows_pure reached

/-! ### Declarations and assignments -/

theorem follows_typeName (session : Session) :
    Follows typeName session .typeWord (At .semicolon) := by
  refine follows_get_bind ?_
  split
  · rename_i type found
    refine follows_next_bind .semicolon ?_ (follows_pure rfl)
    rcases ofKind?_eq_some_iff.mp found with ⟨kind, -⟩ | ⟨kind, -⟩ <;> rw [kind] <;> rfl
  · rename_i notFound
    refine follows_refuse (stuck_of_only (by simp) (fun _ => rfl) fun word => ?_)
    rcases List.mem_cons.mp word with kind | later
    · rw [kind] at notFound
      exact absurd notFound (by decide)
    · rw [List.mem_singleton.mp later] at notFound
      exact absurd notFound (by decide)

theorem follows_declaration (name : session.current.kind = .identifier)
    (colon : session.stream.kindAt 1 = .colon) :
    Follows declaration session .start (At .start) := by
  refine follows_get_bind (follows_expectOr_bind .named rfl (absurd name) ?_)
  rw [← kind_current_pass_one] at colon
  refine follows_expectOr_bind .typeWord rfl (absurd colon) ?_
  refine (follows_typeName _).bind fun type between there _ reached => ?_
  rw [show there = .semicolon from reached]
  refine follows_expectSemicolon_bind (closable_of_at_semicolon between) ?_
  exact follows_declare_bind fun symbols => .stay rfl rfl

theorem follows_checkFit_bind {target given : ScalarType} {step : Unit → Step Value}
    (later : Follows (step ()) session here goal) :
    Follows (checkFit target given >>= step) session here goal := by
  unfold checkFit
  split
  · exact later
  · exact .halt (Or.inl rfl)

/-- An assignment is read alike from the start and where a body is due. -/
theorem follows_assignment (mid : Juncture) (named : here.next .identifier = some mid)
    (signed : mid.next .colonEquals = some (.operand .sum))
    (name : session.current.kind = .identifier)
    (sign : session.stream.kindAt 1 = .colonEquals) :
    Follows assignment session here (At .start) := by
  refine follows_get_bind (follows_expectOr_bind mid named (absurd name) ?_)
  rw [← kind_current_pass_one] at sign
  refine follows_expectOr_bind (.operand .sum) signed (absurd sign) ?_
  refine follows_lookUp_bind fun target => ?_
  refine (follows_expression rfl (by simp)).bind fun given between there _ closable => ?_
  refine follows_expectSemicolon_bind closable (follows_checkFit_bind ?_)
  exact .stay rfl rfl

/-- The lookahead takes the way that the token behind the identifier can be read on. -/
theorem follows_identifierStatement (border : here.IsBorder)
    (name : session.current.kind = .identifier)
    (noDeclaration : here = .body → session.stream.kindAt 1 ≠ .colon) :
    Follows identifierStatement session here (At .start) := by
  refine follows_get_bind ?_
  split
  · rename_i colon
    rcases border with rfl | rfl
    · exact follows_declaration name colon
    · exact absurd colon (noDeclaration rfl)
  · rename_i sign
    rcases border with rfl | rfl
    · exact follows_assignment .named rfl rfl name sign
    · exact follows_assignment .target rfl rfl name sign
  · rename_i noColon noSign
    rw [← kind_current_pass_one] at noColon noSign
    rcases border with rfl | rfl
    · refine follows_next_bind .named (by rw [name]; rfl) (follows_refuse ?_)
      refine stuck_of_next_eq_none (by simp) (Option.eq_none_iff_forall_ne_some.mpr ?_)
      intro there leads
      rw [Juncture.next_named_iff] at leads
      simp_all
    · refine follows_next_bind .target (by rw [name]; rfl) (follows_refuse ?_)
      exact stuck_of_only (by simp) (fun _ => rfl) (by simpa using noSign)

/-! ### Outputs and conditionals -/

theorem follows_shown (session : Session) :
    Follows shown session (.operand .shown) Closable := by
  refine follows_get_bind ?_
  split
  · rename_i kind
    exact follows_next_bind .semicolon (by rw [kind]; rfl)
      (follows_pure (closable_of_at_semicolon _))
  · rename_i noText
    exact (follows_expression rfl fun _ => noText).bind fun _ _ _ _ closable =>
      follows_pure closable

theorem follows_output (named : here.next .outputWord = some .outputSign)
    (word : session.current.kind = .outputWord) :
    Follows output session here (At .start) := by
  refine follows_get_bind (follows_expectOr_bind .outputSign named (absurd word) ?_)
  refine follows_expect_bind (.operand .shown) (by simp) (fun _ => rfl) ?_
  refine (follows_shown _).bind fun _ between there _ closable => ?_
  exact follows_expectSemicolon_bind closable (.stay rfl rfl)

theorem follows_guarded (session : Session) :
    Follows guarded session .body (At .start) := by
  refine follows_get_bind ?_
  split
  · rename_i name
    split
    · rename_i colon
      exact follows_fail (Or.inr (Or.inr ⟨rfl, name, colon⟩))
    · rename_i noColon
      exact follows_identifierStatement (Or.inr rfl) name fun _ => noColon
  · rename_i word
    exact follows_output rfl word
  · rename_i word
    refine follows_fail (Or.inr (stuck_of_next_eq_none (by simp) ?_))
    rw [word]
    rfl
  · rename_i noName noOutput _
    refine follows_refuse (stuck_of_next_eq_none (by simp) ?_)
    refine Option.eq_none_iff_forall_ne_some.mpr fun there leads => ?_
    rw [Juncture.next_body_iff] at leads
    simp_all

theorem follows_body (session : Session) : Follows body session .body (At .start) := by
  have inner : Follows guarded { session with phase := .inConditionalBody }.beginStatement .body
      (At .start) := follows_guarded _
  exact (inner.bind fun clause between there _ reached => .stay rfl reached)

theorem follows_conditional (word : session.current.kind = .ifWord) :
    Follows conditional session .start (At .start) := by
  refine follows_get_bind (follows_expectOr_bind .left rfl (absurd word) ?_)
  refine follows_expect_bind .subject (by simp) (fun _ => rfl) ?_
  refine (follows_condition _).bind fun _ between there _ reached => ?_
  rw [show there = .right from reached]
  refine follows_expect_bind .body (by simp) (fun _ => rfl) ?_
  exact (follows_body _).bind fun inner between there _ reached => .stay rfl reached

/-! ### Statements -/

theorem follows_alone {step : Step Clause} (follows : Follows step session here (At there)) :
    Follows (alone step) session here (At there) :=
  follows.bind fun _ _ _ _ reached => follows_pure reached

/-- A production is registered for each kind that a statement can start with. -/
theorem next_start_eq_none {kind : TokenKind} (none : grammarProductions kind = none) :
    Juncture.start.next kind = Option.none := by
  cases kind <;> first | rfl | exact absurd none (by simp [grammarProductions])

/-- A statement is read from the start to the start. -/
theorem follows_statement (registered : session.productions = grammarProductions)
    (notEnd : session.current.kind ≠ .endOfInput) :
    Follows statement session .start (At .start) := by
  unfold Follows
  rcases statement_cases registered with
    ⟨name, same⟩ | ⟨word, same⟩ | ⟨word, same⟩ | ⟨none, same⟩ <;> rw [same]
  · exact follows_alone (follows_identifierStatement (Or.inl rfl) name (by simp))
  · exact follows_alone (follows_output rfl word)
  · exact follows_conditional word
  · show Follows refuseStatement session.beginStatement .start (At .start)
    exact follows_refuse (Or.inl ⟨next_start_eq_none none, fun ended => absurd ended notEnd⟩)

end HLang.Step
