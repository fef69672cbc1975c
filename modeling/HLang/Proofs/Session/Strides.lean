/-
This file bounds how far a production moves the mark. It never moves it back, and among the tokens
that it passes there is no barrier: no end of input, and no text that is not of the language. The
junctures show this wherever a production begins at a token of its own. Where it does not, it is
refused before it has passed anything but its own opening tokens.

The choice behind an identifier is left out. Called by itself, and not for an identifier, it passes
whatever token is current before it looks for what comes behind.

A production that succeeds has passed at least four tokens: no statement is shorter.
-/

import HLang.Proofs.Session.Cuts
import HLang.Proofs.Session.Moves

namespace HLang

open Grammar

/-! ### The shortest statements -/

namespace Grammar

theorem Operand.length_tokens_pos (operand : Operand) : 0 < operand.tokens.length := by
  cases operand <;> exact Nat.zero_lt_succ _

theorem Sum.length_tokens_pos (sum : Sum) : 0 < sum.tokens.length := by
  rw [Sum.tokens, List.length_append]
  exact Nat.add_pos_left sum.first.length_tokens_pos _

theorem Shown.length_tokens_pos (shown : Shown) : 0 < shown.tokens.length := by
  cases shown with
  | text literal => exact Nat.zero_lt_one
  | value sum => exact sum.length_tokens_pos

theorem Guarded.four_le_length_tokens (guarded : Guarded) : 4 ≤ guarded.tokens.length := by
  cases guarded with
  | assignment tree =>
    have value := tree.value.length_tokens_pos
    simp only [Guarded.tokens, Assignment.tokens, List.length_append, List.length_cons,
      List.length_nil]
    omega
  | output tree =>
    have shown := tree.shown.length_tokens_pos
    simp only [Guarded.tokens, Output.tokens, List.length_append, List.length_cons,
      List.length_nil]
    omega

/-- No statement has fewer than four tokens. -/
theorem Form.four_le_length_tokens (form : Form) : 4 ≤ form.tokens.length := by
  cases form with
  | declaration tree => exact Nat.le_refl 4
  | simple tree => exact tree.four_le_length_tokens
  | conditional tree =>
    rw [Form.tokens, Conditional.tokens_eq_header_append, List.length_append]
    exact Nat.le_trans tree.body.four_le_length_tokens (Nat.le_add_left _ _)

/-! ### No barrier is read -/

theorem Juncture.not_isBarrier_of_next {here there : Juncture} {kind : TokenKind}
    (leads : here.next kind = some there) : ¬ IsBarrier kind := by
  rintro (rfl | rfl)
  · cases here <;> exact nomatch leads
  · rw [next_endOfInput] at leads
    exact nomatch leads

theorem Juncture.not_isBarrier_of_read {here there : Juncture} {tokens : List Token}
    (reads : here.read (kinds tokens) = some there) :
    ∀ token ∈ tokens, ¬ IsBarrier token.kind := by
  induction tokens generalizing here with
  | nil => exact fun token member => absurd member List.not_mem_nil
  | cons first rest inductionHypothesis =>
    obtain ⟨between, leads, later⟩ := accepts_cons_iff.mp reads
    exact List.forall_mem_cons.mpr ⟨not_isBarrier_of_next leads, inductionHypothesis later⟩

end Grammar

/-! ### Moves that pass no barrier -/

/-- The session has passed some tokens, and no barrier is among them. -/
def Session.Clears (session after : Session) : Prop :=
  ∃ count, after.stream = session.stream.pass count ∧
    ∀ token ∈ session.stream.ahead.take count, ¬ IsBarrier token.kind

namespace Session

variable {session between after : Session}

theorem Clears.stay (same : after.stream = session.stream) : session.Clears after :=
  ⟨0, same, fun _ member => absurd member List.not_mem_nil⟩

/-- Passing a current token that is no barrier. -/
theorem clears_pass_one (plain : ¬ IsBarrier session.current.kind) :
    session.Clears (session.pass 1) := by
  have front : [session.current] = session.stream.ahead.take 1 :=
    List.prefix_iff_eq_take.mp (current_isPrefix fun ended => plain (Or.inr ended))
  refine ⟨1, rfl, fun token member => ?_⟩
  rw [← front, List.mem_singleton] at member
  rw [member]
  exact plain

theorem Clears.trans (first : session.Clears between) (second : between.Clears after) :
    session.Clears after := by
  obtain ⟨count, moved, clear⟩ := first
  obtain ⟨more, movedOn, clearOn⟩ := second
  refine ⟨count + more, ?_, fun token member => ?_⟩
  · rw [movedOn, moved, TokenStream.pass_pass]
  · rw [List.take_add, List.mem_append] at member
    rcases member with among | among
    · exact clear token among
    · rw [moved] at clearOn
      exact clearOn token among

theorem Clears.toList (clears : session.Clears after) :
    after.stream.toList = session.stream.toList := by
  obtain ⟨count, moved, -⟩ := clears
  rw [moved, TokenStream.toList_pass]

theorem Clears.index_le (clears : session.Clears after) :
    session.stream.index ≤ after.stream.index := by
  obtain ⟨count, moved, -⟩ := clears
  rw [moved, TokenStream.index_pass_take]
  exact Nat.le_add_right _ _

/-- The tokens between the two marks are those passed. -/
theorem Clears.not_isBarrier (clears : session.Clears after) :
    ∀ token ∈ (session.stream.toList.take after.stream.index).drop session.stream.index,
      ¬ IsBarrier token.kind := by
  obtain ⟨count, moved, clear⟩ := clears
  have passed : (session.stream.toList.take after.stream.index).drop session.stream.index =
      session.stream.ahead.take count := by
    rw [← TokenStream.toList_pass session.stream count, ← moved, TokenStream.take_index, moved]
    show ((session.stream.ahead.take count).reverse ++ session.stream.passed).reverse.drop
      session.stream.passed.length = _
    rw [List.reverse_append, List.reverse_reverse, List.drop_left' List.length_reverse]
  rw [passed]
  exact clear

/-- The mark stays before the first end of input. -/
theorem Clears.index_le_beforeEnd (clears : session.Clears after) :
    after.stream.index ≤ session.stream.index + (beforeEnd session.stream.ahead).length := by
  obtain ⟨count, moved, clear⟩ := clears
  have noEnd : NoEnd (session.stream.ahead.take count) := fun token member ended =>
    clear token member (Or.inr ended)
  have whole := beforeEnd_append noEnd (session.stream.ahead.drop count)
  rw [List.take_append_drop] at whole
  rw [moved, TokenStream.index_pass_take, whole, List.length_append]
  omega

end Session

namespace Step

open Session

variable {Value : Type} {session : Session}

/-! ### The productions -/

/-- What was passed along the junctures holds no barrier. -/
theorem Leads.clears {here : Juncture} {goal : Juncture → Session → Prop}
    {run : Except Diagnosis Value × Session} (leads : Leads session here goal run) :
    session.Clears run.2 := by
  obtain ⟨count, there, moved, reads, -⟩ := leads
  exact ⟨count, moved, Juncture.not_isBarrier_of_read reads⟩

/-- A production that starts with a token of another kind passes nothing. -/
theorem clears_opening_bind {kind : TokenKind} {step : Opening → Token → Step Value}
    (whole : session.current.kind = kind → session.Clears
      ((opening >>= fun opened => expect kind >>= step opened : Step Value) session).2) :
    session.Clears
      ((opening >>= fun opened => expect kind >>= step opened : Step Value) session).2 := by
  by_cases found : session.current.kind = kind
  · exact whole found
  · rw [(yields_opening session).bind_run, bind_run, expect, expectOr_run, if_neg found]
    exact .stay rfl

/-- A production that starts with two certain tokens passes the first alone if the second is of
another kind. -/
theorem clears_opening_bind_bind {first second : TokenKind}
    {step : Opening → Token → Token → Step Value} (plain : ¬ IsBarrier first)
    (whole : session.current.kind = first → session.stream.kindAt 1 = second → session.Clears
      ((opening >>= fun opened => expect first >>= fun token =>
        expect second >>= step opened token : Step Value) session).2) :
    session.Clears
      ((opening >>= fun opened => expect first >>= fun token =>
        expect second >>= step opened token : Step Value) session).2 := by
  refine clears_opening_bind fun found => ?_
  by_cases follows : session.stream.kindAt 1 = second
  · exact whole found follows
  · rw [(yields_opening session).bind_run, bind_run, expect, expectOr_run, if_pos found]
    show session.Clears ((expect second >>= _ : Step Value) session.advance).2
    rw [Session.advance_eq_pass, bind_run, expect, expectOr_run,
      if_neg ((kind_current_pass_one session).symm ▸ follows)]
    exact clears_pass_one (found ▸ plain)

theorem clears_declaration (session : Session) : session.Clears (declaration session).2 :=
  clears_opening_bind_bind (by decide) fun name colon => (follows_declaration name colon).clears

theorem clears_assignment (session : Session) : session.Clears (assignment session).2 :=
  clears_opening_bind_bind (by decide) fun name sign =>
    (follows_assignment .named rfl rfl name sign : Follows _ _ .start _).clears

theorem clears_output (session : Session) : session.Clears (output session).2 :=
  clears_opening_bind fun word => (follows_output rfl word : Follows _ _ .start _).clears

theorem clears_conditional (session : Session) : session.Clears (conditional session).2 :=
  clears_opening_bind fun word => (follows_conditional word).clears

theorem clears_statement (registered : session.productions = grammarProductions) :
    session.Clears (statement session).2 := by
  by_cases ended : session.current.kind = .endOfInput
  · rw [statement_run registered, ended]
    exact .stay rfl
  · exact (follows_statement registered ended).clears

theorem clears_alone {step : Step Clause} (clears : session.Clears (step session).2) :
    session.Clears (alone step session).2 := by
  rw [alone, bind_pure_snd]
  exact clears

/-- Every production but the choice behind an identifier passes no barrier. -/
theorem clears_produce {production : Production}
    (registered : session.productions = grammarProductions) (direct : production ≠ .identifier) :
    session.Clears (produce production session).2 := by
  -- A body is followed from its juncture whatever the current token is.
  cases production with
  | statement => exact clears_statement registered
  | identifier => exact absurd rfl direct
  | declaration => exact clears_alone (clears_declaration session)
  | assignment => exact clears_alone (clears_assignment session)
  | output => exact clears_alone (clears_output session)
  | conditional => exact clears_conditional session
  | body => exact clears_alone (follows_body session).clears

/-! ### Strides -/

/-- How far a production has moved the mark: not back, over no barrier, and if it succeeded, over
the tokens that it counts, which are four at least. -/
structure Strides (session : Session) (run : Except Diagnosis Statement × Session) : Prop where
  tokens : run.2.stream.toList = session.stream.toList
  forward : session.stream.index ≤ run.2.stream.index
  clear : ∀ token ∈ (session.stream.toList.take run.2.stream.index).drop session.stream.index,
    token.kind ≠ .endOfInput ∧ token.kind ≠ .unknown
  counted : ∀ checked, run.1 = .ok checked →
    run.2.stream.index = session.stream.index + checked.tokens ∧
      session.stream.index + 4 ≤ run.2.stream.index

/-- Whatever the tokens, every production but the choice behind an identifier strides. -/
theorem strides_produce {production : Production}
    (registered : session.productions = grammarProductions) (direct : production ≠ .identifier) :
    Strides session (produce production session) := by
  have clears := clears_produce registered direct
  refine ⟨clears.toList, clears.index_le, fun token member => ?_, fun checked passed => ?_⟩
  · have plain := clears.not_isBarrier token member
    exact ⟨fun ended => plain (Or.inr ended), fun unknown => plain (Or.inl unknown)⟩
  · have run : Yields (produce production) session checked (produce production session).2 :=
      Prod.ext passed rfl
    obtain ⟨counts, -⟩ := index_add_tokens_of_produce run
    obtain ⟨chosen, begun, -, -, same⟩ := exists_follow_of_produce production session
    obtain ⟨form, rfl, -⟩ := exists_form_of_follow (same.symm.trans run)
    have four := form.four_le_length_tokens
    rw [← form.tokens_statement] at four
    exact ⟨counts.symm, by omega⟩

end Step

end HLang
