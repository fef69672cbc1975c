/-
This file says what a step does when it succeeds. A session that passes some tokens changes
nothing but its mark, by `Session.pass`; a step that expects a token succeeds exactly if that
token is at the front of the tokens ahead, and then passes it. Steps that follow one another
succeed exactly if each of them does, so the tokens passed by a production are those of its
steps, one after the other.
-/

import HLang.Session.Progress

namespace HLang

/-! ### Passing tokens -/

/-- The stream with its mark moved past the given number of tokens, or to its end. -/
def TokenStream.pass (stream : TokenStream) (count : Nat) : TokenStream :=
  { stream with
    passed := (stream.ahead.take count).reverse ++ stream.passed
    ahead := stream.ahead.drop count }

namespace TokenStream

theorem pass_pass (stream : TokenStream) (first second : Nat) :
    (stream.pass first).pass second = stream.pass (first + second) := by
  unfold pass
  rw [List.take_add, List.reverse_append, List.append_assoc, List.drop_drop]

theorem advance_eq_pass (stream : TokenStream) : stream.advance = stream.pass 1 := by
  obtain ⟨passed, ahead, endValue, endSpan⟩ := stream
  cases ahead <;> rfl

theorem index_pass_take (stream : TokenStream) (count : Nat) :
    (stream.pass count).index = stream.index + (stream.ahead.take count).length := by
  unfold index pass
  rw [List.length_append, List.length_reverse, Nat.add_comm]

/-- Passing tokens moves the index by their number. -/
theorem index_pass {stream : TokenStream} {tokens : List Token}
    (front : tokens <+: stream.ahead) :
    (stream.pass tokens.length).index = stream.index + tokens.length := by
  rw [index_pass_take, ← List.prefix_iff_eq_take.mp front]

/-- Passing as many tokens as there are is passing those that there are. -/
theorem pass_eq_of_take {stream : TokenStream} {count : Nat} {tokens : List Token}
    (passed : stream.ahead.take count = tokens) :
    stream.pass count = stream.pass tokens.length := by
  subst passed
  rw [List.length_take]
  rcases Nat.le_total count stream.ahead.length with within | beyond
  · rw [Nat.min_eq_left within]
  · rw [Nat.min_eq_right beyond]
    unfold pass
    rw [List.take_of_length_le beyond, List.drop_of_length_le beyond, List.take_length,
      List.drop_length]

/-- The token before the mark is the last one passed. -/
theorem previous_pass {stream : TokenStream} {tokens : List Token} {last : Token}
    (front : tokens ++ [last] <+: stream.ahead) :
    (stream.pass (tokens ++ [last]).length).previous = last := by
  unfold previous pass
  rw [← List.prefix_iff_eq_take.mp front, List.reverse_concat, List.cons_append,
    List.head?_cons, Option.getD_some]

/-! The tokens of a stream, counted from its first one. -/

/-- Passing tokens changes none. -/
theorem toList_pass (stream : TokenStream) (count : Nat) :
    (stream.pass count).toList = stream.toList := by
  unfold pass toList endToken
  rw [List.reverse_append, List.reverse_reverse, List.append_assoc stream.passed.reverse,
    List.take_append_drop]

theorem take_index (stream : TokenStream) :
    stream.toList.take stream.index = stream.passed.reverse := by
  unfold toList index
  rw [List.append_assoc, List.take_left' List.length_reverse]

theorem getElem?_index_add (stream : TokenStream) (distance : Nat) :
    stream.toList[stream.index + distance]? = (stream.ahead ++ [stream.endToken])[distance]? := by
  unfold toList index
  rw [List.append_assoc, List.getElem?_append_right (by simp), List.length_reverse,
    Nat.add_sub_cancel_left]

/-- What is seen ahead is a token of the stream, or the end behind the last one. -/
theorem kindAt_eq (stream : TokenStream) (distance : Nat) :
    stream.kindAt distance =
      ((stream.toList[stream.index + distance]?).map Token.kind).getD .endOfInput := by
  rw [getElem?_index_add]
  unfold kindAt
  rcases Nat.lt_trichotomy distance stream.ahead.length with inside | rfl | outside
  · rw [List.getElem?_append_left inside]
  · simp [endToken]
  · rw [List.getElem?_eq_none (Nat.le_of_lt outside),
      List.getElem?_eq_none (by rw [List.length_append]; exact outside)]

theorem kindAt_eq_iff {stream : TokenStream} {distance : Nat} {kind : TokenKind}
    (notEnd : kind ≠ .endOfInput) :
    stream.kindAt distance = kind ↔
      (stream.toList[stream.index + distance]?).map Token.kind = some kind := by
  rw [kindAt_eq]
  cases (stream.toList[stream.index + distance]?).map Token.kind with
  | none => simpa using notEnd.symm
  | some found => simp

end TokenStream

/-- A list starts with two parts exactly if it starts with the first, and what follows that
starts with the second. -/
theorem append_isPrefix_iff {Element : Type} {first second whole : List Element} :
    first ++ second <+: whole ↔ first <+: whole ∧ second <+: whole.drop first.length := by
  constructor
  · rintro ⟨rest, rfl⟩
    refine ⟨⟨second ++ rest, (List.append_assoc ..).symm⟩, ?_⟩
    rw [List.append_assoc, List.drop_left]
    exact List.prefix_append second rest
  · rintro ⟨⟨rest, rfl⟩, later⟩
    rw [List.drop_left] at later
    exact (List.prefix_append_right_inj first).mpr later

theorem cons_isPrefix_iff {Element : Type} {first : Element} {second whole : List Element} :
    first :: second <+: whole ↔ [first] <+: whole ∧ second <+: whole.drop 1 :=
  (append_isPrefix_iff : [first] ++ second <+: whole ↔ _)

namespace Session

/-- The session after passing the given number of tokens. -/
def pass (session : Session) (count : Nat) : Session :=
  { session with stream := session.stream.pass count }

@[simp] theorem ahead_pass (session : Session) (count : Nat) :
    (session.pass count).stream.ahead = session.stream.ahead.drop count := rfl

@[simp] theorem pass_pass (session : Session) (first second : Nat) :
    (session.pass first).pass second = session.pass (first + second) :=
  congrArg (fun stream => { session with stream := stream })
    (TokenStream.pass_pass session.stream first second)

theorem advance_eq_pass (session : Session) : session.advance = session.pass 1 :=
  congrArg (fun stream => { session with stream := stream })
    (TokenStream.advance_eq_pass session.stream)

theorem current_of_isPrefix {session : Session} {token : Token} {more : List Token}
    (front : token :: more <+: session.stream.ahead) : session.current = token := by
  obtain ⟨rest, shape⟩ := front
  unfold current TokenStream.current
  rw [← shape, List.cons_append, List.head?_cons, Option.getD_some]

/-- Unless it closes the stream, the current token is the first one ahead. -/
theorem current_isPrefix {session : Session} (notEnd : session.current.kind ≠ .endOfInput) :
    [session.current] <+: session.stream.ahead := by
  unfold current TokenStream.current at notEnd ⊢
  cases shape : session.stream.ahead with
  | nil =>
    rw [shape] at notEnd
    exact absurd rfl notEnd
  | cons token rest => exact ⟨rest, rfl⟩

/-- The clause of the tokens passed since a statement was opened. -/
theorem clause_pass {session : Session} {tokens : List Token} {last : Token}
    (front : tokens ++ [last] <+: session.stream.ahead) (kind : StatementKind)
    (start : Position) :
    (session.pass (tokens ++ [last]).length).clause kind session.stream.index start =
      ⟨kind, ⟨start, last.span.stop⟩, (tokens ++ [last]).length⟩ := by
  show Clause.mk kind ⟨start, (session.stream.pass (tokens ++ [last]).length).previous.span.stop⟩
    ((session.stream.pass (tokens ++ [last]).length).index - session.stream.index) = _
  rw [TokenStream.previous_pass front, TokenStream.index_pass front, Nat.add_sub_cancel_left]

end Session

/-! ### Steps that succeed -/

namespace Step

/-- The step succeeds in the session with the given value, and ends in the session `after`. -/
def Yields {Value : Type} (step : Step Value) (session : Session) (value : Value)
    (after : Session) : Prop :=
  step session = (.ok value, after)

variable {Value First Second : Type} {session after : Session}

theorem ok_eq_ok_iff {given value : Value} {between : Session} :
    ((.ok given, between) : Except Diagnosis Value × Session) = (.ok value, after) ↔
      given = value ∧ between = after := by
  rw [Prod.mk.injEq, Except.ok.injEq]

theorem error_ne_ok {diagnosis : Diagnosis} {value : Value} {between : Session} :
    ((.error diagnosis, between) : Except Diagnosis Value × Session) ≠ (.ok value, after) := by
  intro same
  cases congrArg Prod.fst same

theorem yields_bind_iff {first : Step First} {second : First → Step Second} {value : Second} :
    Yields (first >>= second) session value after ↔
      ∃ middle between, Yields first session middle between ∧
        Yields (second middle) between value after := by
  unfold Yields
  rw [bind_run]
  rcases first session with ⟨diagnosis | middle, between⟩
  · refine ⟨fun same => absurd same error_ne_ok, ?_⟩
    rintro ⟨middle, next, same, -⟩
    exact absurd same error_ne_ok
  · refine ⟨fun run => ⟨middle, between, rfl, run⟩, ?_⟩
    rintro ⟨other, next, same, run⟩
    obtain ⟨rfl, rfl⟩ := ok_eq_ok_iff.mp same
    exact run

theorem yields_pure_iff {given value : Value} :
    Yields (pure given : Step Value) session value after ↔ given = value ∧ session = after :=
  ok_eq_ok_iff

theorem yields_get_bind_iff {step : Session → Step Value} {value : Value} :
    Yields (get >>= step) session value after ↔ Yields (step session) session value after :=
  Iff.rfl

theorem not_yields_refuse {expected : String} {value : Value} :
    ¬ Yields (refuse expected : Step Value) session value after :=
  error_ne_ok

theorem not_yields_fail {fault : Fault} {value : Value} :
    ¬ Yields (fail fault : Step Value) session value after :=
  error_ne_ok

theorem yields_next_iff {token : Token} :
    Yields next session token after ↔ session.current = token ∧ session.pass 1 = after := by
  rw [← Session.advance_eq_pass]
  exact ok_eq_ok_iff

/-- A step that passes the current token first, whatever it is. -/
theorem yields_next_bind_iff {step : Token → Step Value} {value : Value} :
    Yields (next >>= step) session value after ↔
      Yields (step session.current) (session.pass 1) value after := by
  rw [yields_bind_iff]
  constructor
  · rintro ⟨token, between, passed, run⟩
    obtain ⟨rfl, rfl⟩ := yields_next_iff.mp passed
    exact run
  · exact fun run => ⟨_, _, yields_next_iff.mpr ⟨rfl, rfl⟩, run⟩

theorem yields_expectOr_iff {kind : TokenKind} (notEnd : kind ≠ .endOfInput)
    {otherwise : Session → Diagnosis} {token : Token} :
    Yields (expectOr kind otherwise) session token after ↔
      token.kind = kind ∧ [token] <+: session.stream.ahead ∧ session.pass 1 = after := by
  unfold Yields
  rw [expectOr_run]
  constructor
  · intro run
    split at run
    · rename_i found
      obtain ⟨rfl, moved⟩ := ok_eq_ok_iff.mp run
      rw [Session.advance_eq_pass] at moved
      exact ⟨found, Session.current_isPrefix (by rw [found]; exact notEnd), moved⟩
    · exact absurd run error_ne_ok
  · rintro ⟨found, front, moved⟩
    rw [Session.current_of_isPrefix front, if_pos found, Session.advance_eq_pass, moved]

theorem yields_lookUp_iff {name : String} {type : ScalarType} :
    Yields (lookUp name) session type after ↔
      session.symbols.find? name = some type ∧ session = after := by
  unfold Yields
  rw [lookUp_run]
  cases session.symbols.find? name with
  | none => exact ⟨fun run => absurd run error_ne_ok, fun found => absurd found.1 (by simp)⟩
  | some found => rw [Option.some.injEq, ok_eq_ok_iff]

theorem yields_declare_iff {name : String} {type : ScalarType} {value : Unit} :
    Yields (declare name type) session value after ↔
      session.symbols.find? name = none ∧
        { session with symbols := ⟨(name, type) :: session.symbols.entries⟩ } = after := by
  unfold Yields
  rw [declare_run]
  unfold SymbolTable.declare
  cases session.symbols.find? name with
  | none =>
    rw [Option.isSome_none, if_neg Bool.false_ne_true, ok_eq_ok_iff]
    simp
  | some found =>
    rw [Option.isSome_some, if_pos rfl]
    exact ⟨fun run => absurd run error_ne_ok, fun found => absurd found.1 (by simp)⟩

end Step

end HLang
