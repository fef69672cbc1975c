/-
This file proves that exactly the programs of the language are accepted. A run over a list of
tokens succeeds if and only if the tokens before the first end of input are the tokens of a
program whose every statement fits the declarations before it, and it then yields what the
statements of that program stand for, in their order. What follows the first end of input, and
whether the list is closed by one, makes no difference.
-/

import HLang.Proofs.Grammar.Scope
import HLang.Proofs.Session.Statements
import HLang.Validation

namespace HLang

open Grammar Step

/-! ### Whole runs -/

theorem hasTokens_iff {session : Session} :
    session.hasTokens = true ↔ session.current.kind ≠ .endOfInput := by
  unfold Session.hasTokens
  exact bne_iff_ne

theorem not_hasTokens_iff {session : Session} :
    ¬ session.hasTokens = true ↔ session.current.kind = .endOfInput := by
  rw [hasTokens_iff, Classical.not_not]

/-- There are tokens before the end exactly if there are statements left to check. -/
theorem beforeEnd_eq_nil_iff {session : Session} :
    beforeEnd session.stream.ahead = [] ↔ session.current.kind = .endOfInput := by
  unfold beforeEnd Session.current TokenStream.current
  cases session.stream.ahead with
  | nil => simp [TokenStream.endToken]
  | cons token rest => simp [List.takeWhile_cons]

theorem beforeEnd_ahead_of_isPrefix {session : Session} {form : Form}
    (front : form.tokens <+: session.stream.ahead) :
    beforeEnd session.stream.ahead =
      form.tokens ++ beforeEnd (session.past form).stream.ahead :=
  beforeEnd_of_isPrefix front

/-- What a run that succeeds has read is a program. -/
theorem exists_program_of_statements {session last : Session} {checked : List Statement}
    (registered : session.productions = grammarProductions)
    (run : session.statements = (.ok checked, last)) :
    ∃ program, programTokens program = beforeEnd session.stream.ahead ∧
      FitsFrom session.symbols program ∧ program.map Form.statement = checked := by
  fun_induction Session.statements session generalizing checked last with
  | case1 session more diagnosis after failed =>
    exact absurd run error_ne_ok
  | case2 session more statement after passed rest final later inductionHypothesis =>
    obtain ⟨form, front, fits, rfl, rfl⟩ := exists_form_of_yields registered passed
    obtain ⟨rfl, rfl⟩ := ok_eq_ok_iff.mp run
    obtain ⟨program, tokens, fitting, rfl⟩ := inductionHypothesis registered later
    refine ⟨form :: program, ?_, ⟨fits, fitting⟩, rfl⟩
    rw [beforeEnd_ahead_of_isPrefix front, ← tokens]
    rfl
  | case3 session more statement after passed diagnosis final later inductionHypothesis =>
    exact absurd run error_ne_ok
  | case4 session none =>
    obtain ⟨rfl, rfl⟩ := ok_eq_ok_iff.mp run
    refine ⟨[], ?_, trivial, rfl⟩
    exact (beforeEnd_eq_nil_iff.mpr (not_hasTokens_iff.mp none)).symm

/-- A run over a program succeeds with its statements. -/
theorem statements_of_program {program : List Form} {session : Session}
    (registered : session.productions = grammarProductions)
    (tokens : programTokens program = beforeEnd session.stream.ahead)
    (fitting : FitsFrom session.symbols program) :
    session.statements =
      (.ok (program.map Form.statement), program.foldl Session.past session) := by
  induction program generalizing session with
  | nil =>
    have ended := beforeEnd_eq_nil_iff.mp tokens.symm
    rw [Session.statements, if_neg (not_hasTokens_iff.mpr ended)]
    rfl
  | cons form program inductionHypothesis =>
    obtain ⟨fits, later⟩ := fitting
    have whole : form.tokens ++ programTokens program = beforeEnd session.stream.ahead := tokens
    have front : form.tokens <+: session.stream.ahead :=
      (whole ▸ List.prefix_append _ _ : form.tokens <+: beforeEnd session.stream.ahead).trans
        (List.takeWhile_prefix _)
    have more : session.hasTokens = true := by
      refine hasTokens_iff.mpr fun ended => form.tokens_ne_nil ?_
      rw [beforeEnd_eq_nil_iff.mpr ended] at whole
      exact List.append_eq_nil_iff.mp whole |>.1
    rw [beforeEnd_ahead_of_isPrefix front] at whole
    have rest : (session.past form).statements = _ :=
      inductionHypothesis registered (List.append_cancel_left whole) later
    have run : Yields Step.statement session form.statement (session.past form) :=
      yields_statement_of_form registered front fits
    rw [Session.statements, if_pos more]
    split
    · rename_i diagnosis after failed
      exact absurd (failed.symm.trans run) error_ne_ok
    · rename_i statement after passed
      obtain ⟨rfl, rfl⟩ := ok_eq_ok_iff.mp (run.symm.trans passed)
      rw [rest]
      rfl

/-! ### Programs -/

theorem beforeEnd_append_end (front : List Token) {token : Token}
    (ended : token.kind = .endOfInput) : beforeEnd (front ++ [token]) = beforeEnd front := by
  unfold beforeEnd
  rw [List.takeWhile_append, List.takeWhile_cons_of_neg (by simp [ended]), List.append_nil]
  split
  · rename_i whole
    exact ((List.takeWhile_prefix _).eq_of_length whole).symm
  · rfl

/-- Closing a list of tokens adds nothing before its first end of input. -/
theorem beforeEnd_ahead_ofList (tokens : List Token) (file : String) :
    beforeEnd (TokenStream.ofList tokens file).ahead = beforeEnd tokens := by
  unfold TokenStream.ofList
  cases shape : tokens.getLast? with
  | none =>
    rw [List.getLast?_eq_none_iff.mp shape]
  | some token =>
    by_cases closed : token.kind = .endOfInput
    · obtain ⟨front, rfl⟩ := List.getLast?_eq_some_iff.mp shape
      show beforeEnd (if token.kind = .endOfInput then _ else _ : TokenStream).ahead = _
      rw [if_pos closed, List.dropLast_concat, beforeEnd_append_end front closed]
    · show beforeEnd (if token.kind = .endOfInput then _ else _ : TokenStream).ahead = _
      rw [if_neg closed]

/-- A list of tokens is accepted exactly if its tokens before the first end of input are those
of a program whose every statement fits the declarations before it. The outcome is then the
list of its statements. -/
theorem validate_eq_ok_iff (tokens : List Token) (file : String) (checked : List Statement) :
    (validate tokens file).outcome = .ok checked ↔
      ∃ program : List Form, programTokens program = beforeEnd tokens ∧ Scoped program ∧
        program.map Form.statement = checked := by
  have registered := registerGrammar_productions tokens file
  rw [← beforeEnd_ahead_ofList tokens file]
  constructor
  · intro accepted
    have run : (Session.start tokens file).registerGrammar.statements =
        (.ok checked, (Session.start tokens file).registerGrammar.statements.2) :=
      Prod.ext accepted rfl
    obtain ⟨program, whole, fitting, checks⟩ := exists_program_of_statements registered run
    exact ⟨program, whole, fitsFrom_empty_iff.mp fitting, checks⟩
  · rintro ⟨program, whole, fits, rfl⟩
    exact congrArg Prod.fst
      (statements_of_program registered whole (fitsFrom_empty_iff.mpr fits))

end HLang
