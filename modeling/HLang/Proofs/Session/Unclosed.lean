/-
This file follows a session over a statement whose semicolon is missing. The tokens of the statement
before the semicolon, its stem, stand at the front of the tokens ahead, and the token behind them
neither goes on with the statement nor closes it.

Either some name in the stem is not declared, and then the stem begins with an offence that the
session reports before it comes to the end; or all names are declared, and then the session passes
the whole stem and reports the token behind it. With the semicolon there, a statement that does not
fit is condemned too, so what fails in a whole statement fails for scope or type.
-/

import HLang.Proofs.Grammar.Stem
import HLang.Proofs.Session.Cuts
import HLang.Proofs.Session.Offences
import Mathlib.Data.List.Induction

namespace HLang

namespace Grammar

variable {scope : Scope}

/-! ### Statements that do not fit -/

theorem Operand.inScope_or_unknown (scope : Scope) (operand : Operand) :
    operand.InScope scope ∨ ∃ name, operand = .named name ∧ ¬ Knows scope name := by
  cases operand with
  | named name =>
    by_cases known : Knows scope name
    · exact Or.inl known
    · exact Or.inr ⟨name, rfl, known⟩
  | number numeral => exact Or.inl ⟨numeral.type, rfl⟩
  | negative sign numeral => exact Or.inl ⟨numeral.type, rfl⟩

/-- An expression in which some name is not declared begins with one that ends in the first such
name. -/
theorem Sum.inScope_or_endsUnknown (scope : Scope) (sum : Sum) :
    sum.InScope scope ∨
      ∃ (front : Sum) (name : Leaf [.identifier]), front.EndsUnknown scope name ∧
        front.tokens <+: sum.tokens := by
  obtain ⟨first, more⟩ := sum
  induction more using List.reverseRecOn with
  | nil =>
    rcases first.inScope_or_unknown scope with known | ⟨name, rfl, unknown⟩
    · refine Or.inl fun operand member => ?_
      rw [List.mem_singleton.mp member]
      exact known
    · refine Or.inr ⟨⟨.named name, []⟩, name, ⟨⟨[], rfl, fun _ member => ?_⟩, unknown⟩,
        List.prefix_rfl⟩
      exact absurd member List.not_mem_nil
  | append_singleton more summand inductionHypothesis =>
    have operands : (Sum.mk first (more ++ [summand])).operands =
        (Sum.mk first more).operands ++ [summand.operand] := by
      simp [Sum.operands]
    rcases inductionHypothesis with inScope | ⟨front, name, ends, inside⟩
    · rcases summand.operand.inScope_or_unknown scope with known | ⟨name, shape, unknown⟩
      · refine Or.inl fun operand member => ?_
        rw [operands, List.mem_append, List.mem_singleton] at member
        rcases member with earlier | rfl
        · exact inScope operand earlier
        · exact known
      · exact Or.inr ⟨_, name, ⟨⟨_, shape ▸ operands, inScope⟩, unknown⟩, List.prefix_rfl⟩
    · refine Or.inr ⟨front, name, ends, inside.trans ⟨summand.tokens, ?_⟩⟩
      simp [Sum.tokens]

/-- Whether all names of a guarded statement are declared. -/
def Guarded.InScope (scope : Scope) : Guarded → Prop
  | .assignment tree => Knows scope tree.target ∧ tree.value.InScope scope
  | .output tree => tree.shown.Fits scope

/-- Whether all names of a statement are declared, but for one that it declares itself. -/
def Form.InScope (scope : Scope) : Form → Prop
  | .declaration _ => True
  | .simple tree => tree.InScope scope
  | .conditional tree => tree.condition.Fits scope ∧ tree.body.InScope scope

theorem Guarded.inScope_or_offends (scope : Scope) (guarded : Guarded) :
    guarded.InScope scope ∨
      ∃ tokens fault, Offends scope tokens fault ∧ tokens <+: guarded.stem := by
  cases guarded with
  | assignment tree =>
    by_cases known : Knows scope tree.target
    · rcases tree.value.inScope_or_endsUnknown scope with inScope | ⟨front, name, ends, inside⟩
      · exact Or.inl ⟨known, inScope⟩
      · exact Or.inr ⟨_, _, .value tree.target tree.sign front name known ends,
          (List.prefix_append_right_inj _).mpr inside⟩
    · exact Or.inr ⟨_, _, .target tree.target tree.sign known, List.prefix_append _ _⟩
  | output tree =>
    obtain ⟨word, sign, shown, semicolon⟩ := tree
    cases shown with
    | text literal => exact Or.inl trivial
    | value sum =>
      rcases sum.inScope_or_endsUnknown scope with inScope | ⟨front, name, ends, inside⟩
      · exact Or.inl inScope
      · exact Or.inr ⟨_, _, .shown word sign front name ends,
          (List.prefix_append_right_inj _).mpr inside⟩

/-- A condition that does not fit condemns the conditional. -/
theorem Conditional.fits_or_condemned (scope : Scope) (conditional : Conditional) :
    conditional.condition.Fits scope ∨
      ∃ tokens fault, Condemns scope [] tokens fault ∧ tokens <+: conditional.header := by
  obtain ⟨word, left, ⟨subject, relation, operand⟩, right, body⟩ := conditional
  by_cases known : Knows scope subject
  · rcases operand.inScope_or_unknown scope with inScope | ⟨name, rfl, unknown⟩
    · exact Or.inl ⟨known, inScope⟩
    · exact Or.inr ⟨_, _, .operand word left subject relation name known unknown,
        [right.token], rfl⟩
  · exact Or.inr ⟨_, _, .subject word left subject known,
      relation.token :: (operand.tokens ++ [right.token]), rfl⟩

/-- All names of a statement are declared, or what stands before its semicolon condemns it. -/
theorem Form.inScope_or_condemned (scope : Scope) (form : Form) :
    form.InScope scope ∨
      ∃ header tokens fault, Condemns scope header tokens fault ∧
        header ++ tokens <+: form.stem := by
  cases form with
  | declaration tree => exact Or.inl trivial
  | simple tree =>
    rcases tree.inScope_or_offends scope with inScope | ⟨tokens, fault, offends, inside⟩
    · exact Or.inl inScope
    · exact Or.inr ⟨_, _, _, .alone offends, inside⟩
  | conditional tree =>
    rcases tree.fits_or_condemned scope with fits | ⟨tokens, fault, condemns, inside⟩
    · rcases tree.body.inScope_or_offends scope with inScope | ⟨tokens, fault, offends, inside⟩
      · exact Or.inl ⟨fits, inScope⟩
      · exact Or.inr ⟨_, _, _, .guarded tree.opening fits offends,
          (List.prefix_append_right_inj _).mpr inside⟩
    · exact Or.inr ⟨_, _, _, condemns, inside.trans (List.prefix_append _ _)⟩

theorem Guarded.Fits.inScope {guarded : Guarded} (fits : guarded.Fits scope) :
    guarded.InScope scope := by
  cases guarded with
  | assignment tree => exact ⟨Assignment.Fits.target fits, Assignment.Fits.value fits⟩
  | output tree => exact fits

theorem Form.Fits.inScope {form : Form} (fits : form.Fits scope) : form.InScope scope := by
  cases form with
  | declaration tree => exact trivial
  | simple tree => exact Guarded.Fits.inScope fits
  | conditional tree => exact ⟨fits.1, fits.2.inScope⟩

/-- A guarded statement whose names are declared fits, or gives a double to an integer variable. -/
theorem Guarded.InScope.fits_or_offends {guarded : Guarded} (inScope : guarded.InScope scope) :
    guarded.Fits scope ∨ ∃ fault, Offends scope guarded.tokens fault := by
  cases guarded with
  | assignment tree =>
    by_cases integers : scope tree.target.token.value .integer →
        ∀ operand ∈ tree.value.operands, operand.HasType scope .integer
    · exact Or.inl ⟨inScope.1, inScope.2, integers⟩
    · push Not at integers
      obtain ⟨integer, operand, member, other⟩ := integers
      obtain ⟨type, typed⟩ := inScope.2 operand member
      cases type with
      | integer => exact absurd typed other
      | double => exact Or.inr ⟨_, .mismatch tree integer inScope.2 ⟨operand, member, typed⟩⟩
  | output tree => exact Or.inl inScope

/-- A statement fits where it stands, or it is condemned by some of its tokens. -/
theorem Form.fits_or_condemned (scope : Scope) (form : Form) :
    form.Fits scope ∨
      ∃ header tokens fault, Condemns scope header tokens fault ∧
        header ++ tokens <+: form.tokens := by
  rcases form.inScope_or_condemned scope with inScope | ⟨header, tokens, fault, condemns, inside⟩
  · cases form with
    | declaration tree =>
      by_cases known : Knows scope tree.name
      · exact Or.inr ⟨_, _, _, .duplicate tree known, List.prefix_rfl⟩
      · exact Or.inl fun type declared => known ⟨type, declared⟩
    | simple tree =>
      rcases inScope.fits_or_offends with fits | ⟨fault, offends⟩
      · exact Or.inl fits
      · exact Or.inr ⟨_, _, _, .alone offends, List.prefix_rfl⟩
    | conditional tree =>
      rcases inScope.2.fits_or_offends with fits | ⟨fault, offends⟩
      · exact Or.inl ⟨inScope.1, fits⟩
      · refine Or.inr ⟨_, _, _, .guarded tree.opening inScope.1 offends, ?_⟩
        exact tree.tokens_eq_header_append ▸ List.prefix_rfl
  · refine Or.inr ⟨header, tokens, fault, condemns, inside.trans ?_⟩
    rw [form.tokens_eq_stem_append]
    exact List.prefix_append _ _

/-- What condemns a statement is its scope or type. -/
theorem Condemns.category {header tokens : List Token} {fault : Fault}
    (condemns : Condemns scope header tokens fault) : fault.category = .semantic := by
  have offence {tokens : List Token} {fault : Fault} (offends : Offends scope tokens fault) :
      fault.category = .semantic := by
    cases offends <;> rfl
  cases condemns with
  | alone offends => exact offence offends
  | guarded header fits offends => exact offence offends
  | _ => rfl

end Grammar

open Grammar

/-! ### Tokens in the place of a semicolon -/

/-- The fault of finding the token where a semicolon is due. -/
def Fault.unclosedBy (found : Token) : Fault :=
  match found.kind with
  | .unknown => .unrecognisedToken found.value
  | .endOfInput => .unexpectedEndOfInput TokenKind.semicolon.describe
  | _ => .unexpectedToken found.value

theorem Fault.unclosedBy_of_not_isBarrier {found : Token} (plain : ¬ IsBarrier found.kind) :
    Fault.unclosedBy found = .unexpectedToken found.value := by
  obtain ⟨known, notEnd⟩ := not_or.mp plain
  unfold unclosedBy
  split
  · rename_i unknown
    exact absurd unknown known
  · rename_i ended
    exact absurd ended notEnd
  · rfl

namespace Session

variable {session : Session}

theorem missingSemicolon_eq (session : Session) :
    session.missingSemicolon = session.diagnose (.unclosedBy session.current) := by
  by_cases barrier : IsBarrier session.current.kind
  · rw [missingSemicolon_of_barrier barrier]
    unfold unexpected Fault.unclosedBy
    rcases barrier with kind | kind <;> rw [kind]
  · obtain ⟨known, notEnd⟩ := not_or.mp barrier
    rw [Fault.unclosedBy_of_not_isBarrier barrier]
    unfold missingSemicolon
    split
    · rename_i unknown
      exact absurd unknown known
    · rename_i ended
      exact absurd ended notEnd
    · rfl

/-- The stem stands at the front of the tokens ahead, and the token behind it cannot be read at the
juncture where the stem leads. -/
structure Unclosed (session : Session) (stem : List Token) (closing : Juncture) : Prop where
  front : stem <+: session.stream.ahead
  refused : closing.next (session.pass stem.length).current.kind = none

namespace Unclosed

variable {stem : List Token} {closing : Juncture}

theorem noSemicolon (unclosed : session.Unclosed stem closing)
    (closes : closing = .semicolon ∨ closing = .more) :
    (session.pass stem.length).current.kind ≠ .semicolon := by
  intro kind
  have refused := unclosed.refused
  rw [kind] at refused
  rcases closes with rfl | rfl <;> exact nomatch refused

theorem noSign (unclosed : session.Unclosed stem .more) :
    ¬ Step.IsSign (session.pass stem.length).current.kind := by
  have refused := unclosed.refused
  rintro (kind | kind) <;> rw [kind] at refused <;> exact nomatch refused

/-- What is behind a header is not closed either. -/
theorem behind {header : List Token} (unclosed : session.Unclosed (header ++ stem) closing) :
    (session.pass header.length).Unclosed stem closing := by
  refine ⟨(append_isPrefix_iff.mp unclosed.front).2, ?_⟩
  rw [pass_pass, ← List.length_append]
  exact unclosed.refused

end Unclosed

end Session

namespace Step

variable {session : Session}

/-! ### Statements that are not closed -/

theorem reports_expectSemicolon (other : session.current.kind ≠ .semicolon) :
    Reports expectSemicolon session (.unclosedBy session.current) session.statementStart := by
  refine ⟨session, ?_⟩
  unfold Fails expectSemicolon
  rw [expectOr_run, if_neg other, session.missingSemicolon_eq]
  rfl

theorem passed_stem (session : Session) (first second : Token) (middle : List Token) :
    ((session.pass 1).pass 1).pass middle.length =
      session.pass ([first, second] ++ middle).length := by
  simp only [Session.pass_pass, List.length_append, List.length_cons, List.length_nil]

theorem reports_declaration_of_unclosed {tree : Declaration}
    (unclosed : session.Unclosed (Form.declaration tree).stem .semicolon) :
    Reports declaration session
      (.unclosedBy (session.pass (Form.declaration tree).stem.length).current)
      session.statementStart := by
  obtain ⟨opened, wordFront⟩ :=
    (append_isPrefix_iff : [tree.name.token, tree.colon.token] ++ [tree.word.token] <+: _ ↔ _).mp
      unclosed.front
  have typed : Yields typeName ((session.pass 1).pass 1) tree.word.type
      (session.pass (Form.declaration tree).stem.length) := by
    refine yields_typeName_iff.mpr ⟨tree.word, by simpa using wordFront, rfl, ?_⟩
    exact passed_stem session tree.name.token tree.colon.token [tree.word.token]
  have missing := reports_expectSemicolon (unclosed.noSemicolon (Or.inl rfl))
  refine Reports.congr ?_ (opened_run tree.name tree.colon (by decide) opened)
  exact .behind typed missing.bind

theorem reports_assignment_of_unclosed {tree : Assignment}
    (known : Knows session.symbols.scope tree.target)
    (inScope : tree.value.InScope session.symbols.scope)
    (unclosed : session.Unclosed (Guarded.assignment tree).stem .more) :
    Reports assignment session
      (.unclosedBy (session.pass (Guarded.assignment tree).stem.length).current)
      session.statementStart := by
  obtain ⟨type, declared⟩ := known
  obtain ⟨given, typed⟩ := exists_hasType inScope
  obtain ⟨opened, valueFront⟩ := append_isPrefix_iff.mp unclosed.front
  have valued : Yields expression ((session.pass 1).pass 1) given
      (session.pass (Guarded.assignment tree).stem.length) := by
    refine yields_expression_iff.mpr
      ⟨tree.value, by simpa using valueFront, typed, ?_, unclosed.noSign⟩
    exact passed_stem session tree.target.token tree.sign.token tree.value.tokens
  have missing := reports_expectSemicolon (unclosed.noSemicolon (Or.inr rfl))
  exact reports_assignment_of_value declared opened fun opening => .behind valued missing.bind

theorem reports_output_of_unclosed {tree : Output}
    (fits : tree.shown.Fits session.symbols.scope)
    (unclosed : session.Unclosed (Guarded.output tree).stem tree.shown.closing) :
    Reports output session
      (.unclosedBy (session.pass (Guarded.output tree).stem.length).current)
      session.statementStart := by
  obtain ⟨opened, shownFront⟩ := append_isPrefix_iff.mp unclosed.front
  have whole : IsWhole (session.pass (Guarded.output tree).stem.length) tree.shown := by
    cases shape : tree.shown with
    | text literal => trivial
    | value sum =>
      rw [shape] at unclosed
      exact unclosed.noSign
  have showed : Yields shown ((session.pass 1).pass 1) ()
      (session.pass (Guarded.output tree).stem.length) := by
    refine yields_shown_iff.mpr ⟨tree.shown, by simpa using shownFront, fits, ?_, whole⟩
    exact passed_stem session tree.word.token tree.sign.token tree.shown.tokens
  have missing := reports_expectSemicolon
    (unclosed.noSemicolon (Guarded.output tree).closing_cases)
  refine Reports.congr ?_ (opened_run tree.word tree.sign (by decide) opened)
  exact .behind showed missing.bind

theorem rejects_of_unclosed {tree : Guarded} (inScope : tree.InScope session.symbols.scope)
    (unclosed : session.Unclosed tree.stem tree.closing) :
    Rejects session (.unclosedBy (session.pass tree.stem.length).current) := by
  cases tree with
  | assignment tree =>
    refine Or.inl ⟨?_, ?_, reports_assignment_of_unclosed inScope.1 inScope.2 unclosed⟩
    · rw [Session.current_of_isPrefix unclosed.front, tree.target.kind_eq]
    · rw [kindAt_one_of_isPrefix unclosed.front, tree.sign.kind_eq]
  | output tree =>
    refine Or.inr ⟨?_, reports_output_of_unclosed inScope unclosed⟩
    rw [Session.current_of_isPrefix unclosed.front, tree.word.kind_eq]

theorem current_eq_head_of_stem {tree : Guarded} (front : tree.stem <+: session.stream.ahead) :
    session.current = tree.head := by
  cases tree with
  | assignment tree => exact Session.current_of_isPrefix front
  | output tree => exact Session.current_of_isPrefix front

/-- A statement whose names are declared is passed up to its semicolon. If another token stands
there, that is reported, at the start of the statement or of its body. -/
theorem reports_statement_of_unclosed (registered : session.productions = grammarProductions)
    {form : Form} (inScope : form.InScope session.symbols.scope)
    (unclosed : session.Unclosed form.stem form.closing) :
    Reports statement session (.unclosedBy (session.pass form.stem.length).current)
      form.begun := by
  have begun : session.beginStatement.Unclosed form.stem form.closing :=
    ⟨unclosed.front, unclosed.refused⟩
  cases form with
  | declaration tree =>
    have current : session.current = tree.name.token :=
      Session.current_of_isPrefix unclosed.front
    have colon : session.beginStatement.stream.kindAt 1 = .colon :=
      (kindAt_one_of_isPrefix unclosed.front).trans tree.colon.kind_eq
    have follows : Reports (follow .identifier) session.beginStatement _ _ :=
      ((reports_declaration_of_unclosed begun).congr (identifierStatement_of_colon colon)).bind
    have reports := reports_statement_of_follow registered
      (by rw [current, tree.name.kind_eq]; rfl) follows
    rwa [show session.beginStatement.statementStart = session.current.span.start from rfl,
      current] at reports
  | simple tree =>
    have names : tree.InScope session.beginStatement.symbols.scope := inScope
    have reports := (rejects_of_unclosed names begun).reports_statement registered
    rwa [current_eq_head_of_stem unclosed.front] at reports
  | conditional tree =>
    obtain ⟨fits, bodyInScope⟩ := inScope
    obtain ⟨headerFront, stemFront⟩ := append_isPrefix_iff.mp unclosed.front
    let opened := session.beginStatement.pass tree.opening.tokens.length
    have names : tree.body.InScope opened.enterBody.symbols.scope := bodyInScope
    have inner : opened.enterBody.Unclosed tree.body.stem tree.body.closing :=
      ⟨begun.behind.front, begun.behind.refused⟩
    have behind : (opened.enterBody.pass tree.body.stem.length).current =
        (session.pass (Form.conditional tree).stem.length).current := by
      rw [Form.stem, List.length_append]
      exact congrArg TokenStream.current (TokenStream.pass_pass session.stream _ _)
    have head : opened.current = tree.body.head := current_eq_head_of_stem stemFront
    have guards : Reports body opened _ _ := (rejects_of_unclosed names inner).reports_body
    rw [behind, head] at guards
    have condition : tree.opening.condition.Fits session.beginStatement.symbols.scope := fits
    exact reports_statement_of_conditional registered headerFront
      (reports_conditional_of_body condition headerFront guards)

/-! ### Statements that fail -/

variable {after : Session} {diagnosis : Diagnosis}

theorem eq_of_fails_of_reports {fault : Fault} {place : Position}
    (failed : Fails statement session diagnosis after)
    (reports : Reports statement session fault place) : diagnosis = ⟨fault, place⟩ := by
  obtain ⟨last, reported⟩ := reports
  exact (error_eq_error_iff.mp (failed.symm.trans reported)).1

/-- Where a whole statement stands, none fails but for scope or type. -/
theorem category_of_fails_statement (registered : session.productions = grammarProductions)
    (form : Form) (front : form.tokens <+: session.stream.ahead)
    (failed : Fails statement session diagnosis after) : diagnosis.fault.category = .semantic := by
  rcases form.fits_or_condemned session.symbols.scope with
    fits | ⟨header, tokens, fault, condemns, inside⟩
  · exact absurd (failed.symm.trans (yields_statement_of_form registered front fits)) error_ne_ok
  · have reports := reports_statement registered condemns (inside.trans front)
    rw [eq_of_fails_of_reports failed reports]
    exact condemns.category

/-- Where a statement stands without its semicolon, that is reported, unless some name in it is not
declared. -/
theorem diagnosis_of_fails_unclosed (registered : session.productions = grammarProductions)
    {form : Form} (unclosed : session.Unclosed form.stem form.closing)
    (failed : Fails statement session diagnosis after) :
    diagnosis.fault.category = .semantic ∨
      diagnosis = ⟨.unclosedBy (session.pass form.stem.length).current, form.begun⟩ := by
  rcases form.inScope_or_condemned session.symbols.scope with
    inScope | ⟨header, tokens, fault, condemns, inside⟩
  · exact Or.inr (eq_of_fails_of_reports failed
      (reports_statement_of_unclosed registered inScope unclosed))
  · have reports := reports_statement registered condemns (inside.trans unclosed.front)
    rw [eq_of_fails_of_reports failed reports]
    exact Or.inl condemns.category

end Step

end HLang
