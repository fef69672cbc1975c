/-
This file proves that steps make progress: no step moves the mark of the token stream back,
and a step that passes a token of a kind other than end of input leaves fewer tokens to read.
Both facts pass from the parts of a step to the whole, so a production needs to be looked at
only once. They are why the loops over operands and statements come to an end.
-/

import HLang.Session.Basic

namespace HLang

/-! ### Running steps one after the other -/

namespace Step

theorem bind_run {First Second : Type} (first : Step First) (second : First → Step Second)
    (session : Session) :
    (first >>= second) session =
      match first session with
      | (.ok value, after) => second value after
      | (.error diagnosis, after) => (.error diagnosis, after) := by
  show (match first session with
    | (outcome, after) => ExceptT.bindCont second outcome after) = _
  rcases first session with ⟨outcome | value, after⟩ <;> rfl

/-! ### Steps that never move back -/

/-- Whether it succeeds or fails, the step leaves at most as many tokens as it found. -/
def Forward {Value : Type} (step : Step Value) : Prop :=
  ∀ session, (step session).2.remaining ≤ session.remaining

/-- The step never moves back, and if it succeeds, it leaves fewer tokens than it found. -/
structure Consumes {Value : Type} (step : Step Value) : Prop where
  forward : Forward step
  fewer : ∀ session value after, step session = (.ok value, after) →
    after.remaining < session.remaining

theorem Forward.pure {Value : Type} (value : Value) : Forward (pure value : Step Value) :=
  fun session => Nat.le_refl session.remaining

theorem Forward.bind {First Second : Type} {first : Step First} {second : First → Step Second}
    (firstForward : Forward first) (secondForward : ∀ value, Forward (second value)) :
    Forward (first >>= second) := by
  intro session
  have bound := firstForward session
  rw [bind_run]
  rcases middle : first session with ⟨outcome | value, after⟩
  · rw [middle] at bound
    exact bound
  · rw [middle] at bound
    exact Nat.le_trans (secondForward value after) bound

theorem Consumes.bind {First Second : Type} {first : Step First} {second : First → Step Second}
    (consumes : Consumes first) (forward : ∀ value, Forward (second value)) :
    Consumes (first >>= second) := by
  refine ⟨consumes.forward.bind forward, fun session value after run => ?_⟩
  rw [bind_run] at run
  rcases middle : first session with ⟨outcome | passed, between⟩
  · rw [middle] at run
    exact absurd (congrArg Prod.fst run) (by simp)
  · rw [middle] at run
    have bound := forward passed between
    rw [show second passed between = (.ok value, after) from run] at bound
    exact Nat.lt_of_le_of_lt bound (consumes.fewer session passed between middle)

theorem Consumes.bind_right {First Second : Type} {first : Step First}
    {second : First → Step Second} (forward : Forward first)
    (consumes : ∀ value, Consumes (second value)) : Consumes (first >>= second) := by
  refine ⟨forward.bind fun value => (consumes value).forward, fun session value after run => ?_⟩
  rw [bind_run] at run
  have bound := forward session
  rcases middle : first session with ⟨outcome | passed, between⟩
  · rw [middle] at run
    exact absurd (congrArg Prod.fst run) (by simp)
  · rw [middle] at run bound
    exact Nat.lt_of_lt_of_le ((consumes passed).fewer between value after run) bound

/-! ### The moves -/

theorem remaining_advance_le (session : Session) :
    session.advance.remaining ≤ session.remaining := by
  unfold Session.advance Session.remaining TokenStream.advance
  split <;> simp_all

theorem remaining_advance_lt {session : Session} (notEnd : session.current.kind ≠ .endOfInput) :
    session.advance.remaining < session.remaining := by
  unfold Session.current TokenStream.current at notEnd
  unfold Session.advance Session.remaining TokenStream.advance
  split
  · rename_i empty
    rw [empty] at notEnd
    exact absurd rfl notEnd
  · rename_i shape
    simp [shape]

theorem forward_get : Forward (get : Step Session) :=
  fun session => Nat.le_refl session.remaining

theorem refuse_run {Value : Type} (expected : String) (session : Session) :
    (refuse expected : Step Value) session = (.error (session.unexpected expected), session) :=
  rfl

theorem fail_run {Value : Type} (fault : Fault) (session : Session) :
    (fail fault : Step Value) session = (.error (session.diagnose fault), session) :=
  rfl

theorem forward_refuse {Value : Type} (expected : String) :
    Forward (refuse expected : Step Value) :=
  fun session => Nat.le_refl session.remaining

theorem forward_fail {Value : Type} (fault : Fault) : Forward (fail fault : Step Value) :=
  fun session => Nat.le_refl session.remaining

theorem consumes_refuse {Value : Type} (expected : String) :
    Consumes (refuse expected : Step Value) := by
  refine ⟨forward_refuse expected, fun session value after run => ?_⟩
  rw [refuse_run] at run
  exact absurd (congrArg Prod.fst run) (by simp)

theorem consumes_fail {Value : Type} (fault : Fault) : Consumes (fail fault : Step Value) := by
  refine ⟨forward_fail fault, fun session value after run => ?_⟩
  rw [fail_run] at run
  exact absurd (congrArg Prod.fst run) (by simp)

theorem next_run (session : Session) :
    next session = (.ok session.current, session.advance) := rfl

theorem forward_next : Forward next := remaining_advance_le

theorem expectOr_run (kind : TokenKind) (otherwise : Session → Diagnosis) (session : Session) :
    expectOr kind otherwise session =
      if session.current.kind = kind then (.ok session.current, session.advance)
      else (.error (otherwise session), session) := by
  show (if session.current.kind = kind then next else throw (otherwise session) : Step Token)
    session = _
  split <;> rfl

theorem forward_expectOr (kind : TokenKind) (otherwise : Session → Diagnosis) :
    Forward (expectOr kind otherwise) := by
  intro session
  rw [expectOr_run]
  split
  · exact remaining_advance_le session
  · exact Nat.le_refl _

theorem consumes_expectOr {kind : TokenKind} (notEnd : kind ≠ .endOfInput)
    (otherwise : Session → Diagnosis) : Consumes (expectOr kind otherwise) := by
  refine ⟨forward_expectOr kind otherwise, fun session value after run => ?_⟩
  rw [expectOr_run] at run
  split at run
  · rename_i found
    have moved : session.advance = after := congrArg Prod.snd run
    rw [← moved]
    exact remaining_advance_lt (by rw [found]; exact notEnd)
  · exact absurd (congrArg Prod.fst run) (by simp)

theorem forward_expect (kind : TokenKind) : Forward (expect kind) :=
  forward_expectOr kind _

theorem consumes_expect {kind : TokenKind} (notEnd : kind ≠ .endOfInput) :
    Consumes (expect kind) :=
  consumes_expectOr notEnd _

theorem forward_expectSemicolon : Forward expectSemicolon :=
  forward_expectOr .semicolon _

theorem forward_beginStatement : Forward beginStatement :=
  fun session => Nat.le_refl session.remaining

theorem forward_enter (phase : Phase) : Forward (enter phase) :=
  fun session => Nat.le_refl session.remaining

theorem lookUp_run (name : String) (session : Session) :
    lookUp name session =
      match session.symbols.find? name with
      | some type => (.ok type, session)
      | none => (.error (session.diagnose (.undeclaredIdentifier name)), session) := by
  unfold lookUp
  rw [bind_run]
  show (match session.symbols.find? name with
    | some type => pure type
    | none => fail (.undeclaredIdentifier name) : Step ScalarType) session = _
  cases session.symbols.find? name <;> rfl

theorem forward_lookUp (name : String) : Forward (lookUp name) := by
  intro session
  rw [lookUp_run]
  split <;> exact Nat.le_refl _

theorem declare_run (name : String) (type : ScalarType) (session : Session) :
    declare name type session =
      match session.symbols.declare name type session.statementStart with
      | .ok symbols => (.ok (), { session with symbols := symbols })
      | .error diagnosis => (.error diagnosis, session) := by
  unfold declare
  rw [bind_run]
  show (match session.symbols.declare name type session.statementStart with
    | .ok symbols => set { session with symbols := symbols }
    | .error diagnosis => throw diagnosis : Step Unit) session = _
  cases session.symbols.declare name type session.statementStart <;> rfl

theorem forward_declare (name : String) (type : ScalarType) : Forward (declare name type) := by
  intro session
  rw [declare_run]
  split <;> exact Nat.le_refl _

end Step

end HLang
