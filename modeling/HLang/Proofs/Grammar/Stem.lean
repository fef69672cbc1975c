/-
This file takes the semicolon off a statement. Every statement tree ends with its semicolon and has
no other one, so a semicolon among the tokens of a program is the end of a statement. What is left
of a statement without it is its stem. Wherever a stem can be read, it leads to one of two
junctures, and from both a semicolon is the way back to the start.
-/

import HLang.Proofs.Grammar.Juncture

namespace HLang.Grammar

/-! ### Statements without their semicolon -/

/-- Some token of the kind. A stem is that of a statement whichever semicolon is taken. -/
instance (kind : TokenKind) : Inhabited (Leaf [kind]) :=
  ⟨⟨⟨kind, "", default⟩, List.mem_singleton_self kind⟩⟩

/-- The tokens of a guarded statement before its semicolon. -/
def Guarded.stem : Guarded → List Token
  | .assignment tree => [tree.target.token, tree.sign.token] ++ tree.value.tokens
  | .output tree => [tree.word.token, tree.sign.token] ++ tree.shown.tokens

/-- The semicolon of a guarded statement. -/
def Guarded.semicolon : Guarded → Leaf [.semicolon]
  | .assignment tree => tree.semicolon
  | .output tree => tree.semicolon

theorem Guarded.tokens_eq_stem_append (guarded : Guarded) :
    guarded.tokens = guarded.stem ++ [guarded.semicolon.token] := by
  cases guarded <;> rfl

namespace Form

/-- The tokens of a statement before its semicolon. -/
def stem : Form → List Token
  | .declaration tree => [tree.name.token, tree.colon.token, tree.word.token]
  | .simple tree => tree.stem
  | .conditional tree => tree.header ++ tree.body.stem

/-- The semicolon of a statement; a conditional ends with that of its body. -/
def semicolon : Form → Leaf [.semicolon]
  | .declaration tree => tree.semicolon
  | .simple tree => tree.semicolon
  | .conditional tree => tree.body.semicolon

theorem tokens_eq_stem_append (form : Form) :
    form.tokens = form.stem ++ [form.semicolon.token] := by
  cases form with
  | declaration tree => rfl
  | simple tree => exact tree.tokens_eq_stem_append
  | conditional tree =>
    rw [tokens, tree.tokens_eq_header_append, tree.body.tokens_eq_stem_append, ← List.append_assoc]
    rfl

end Form

/-! ### The only semicolon of a statement -/

/-- The kinds of the tokens in expressions. -/
def expressionKinds : List TokenKind :=
  [.identifier, .integerLiteral, .doubleLiteral, .plus, .dash]

theorem Operand.kinds_subset (operand : Operand) : kinds operand.tokens ⊆ expressionKinds := by
  cases operand with
  | named name => simp [tokens, expressionKinds, name.kind_eq]
  | number numeral =>
    rcases numeral.kind_eq_or with kind | kind <;> simp [tokens, expressionKinds, kind]
  | negative sign numeral =>
    rcases numeral.kind_eq_or with kind | kind <;>
      simp [tokens, expressionKinds, sign.kind_eq, kind]

theorem Sum.kinds_subset (sum : Sum) : kinds sum.tokens ⊆ expressionKinds := by
  rw [tokens, kinds, List.map_append, List.map_flatMap]
  refine List.append_subset.mpr ⟨sum.first.kinds_subset, fun kind member => ?_⟩
  obtain ⟨summand, -, among⟩ := List.mem_flatMap.mp member
  rcases List.mem_cons.mp among with sign | operand
  · rw [sign]
    rcases summand.sign.kind_eq_or with isSign | isSign <;> simp [expressionKinds, isSign]
  · exact summand.operand.kinds_subset operand

/-- The kinds of the tokens in statements, but for conditionals, up to the semicolon. -/
def stemKinds : List TokenKind :=
  [.colonEquals, .lessLess, .outputWord, .stringLiteral] ++ expressionKinds

theorem Guarded.kinds_stem_subset (guarded : Guarded) : kinds guarded.stem ⊆ stemKinds := by
  have value (sum : Sum) : kinds sum.tokens ⊆ stemKinds :=
    List.subset_append_of_subset_right _ sum.kinds_subset
  cases guarded with
  | assignment tree =>
    rw [stem, kinds, List.map_append]
    refine List.append_subset.mpr ⟨?_, value tree.value⟩
    simp [stemKinds, expressionKinds, tree.target.kind_eq, tree.sign.kind_eq]
  | output tree =>
    rw [stem, kinds, List.map_append]
    refine List.append_subset.mpr ⟨?_, ?_⟩
    · simp [stemKinds, tree.word.kind_eq, tree.sign.kind_eq]
    · cases tree.shown with
      | text literal => simp [Shown.tokens, stemKinds, literal.kind_eq]
      | value sum => exact value sum

/-- The kinds of the tokens behind the word `If` of a conditional, up to its body. -/
def headerKinds : List TokenKind :=
  [.openParen, .closeParen, .less, .lessEquals, .greater, .greaterEquals, .equals, .notEquals] ++
    expressionKinds

theorem Conditional.kinds_header_subset (conditional : Conditional) :
    ∃ behind, kinds conditional.header = .ifWord :: behind ∧ behind ⊆ headerKinds := by
  have relation : conditional.condition.relation.token.kind ∈ headerKinds :=
    List.mem_append_left expressionKinds (List.mem_cons_of_mem _ (List.mem_cons_of_mem _
      conditional.condition.relation.allowed))
  have operand : kinds conditional.condition.operand.tokens ⊆ headerKinds :=
    List.subset_append_of_subset_right _ conditional.condition.operand.kinds_subset
  refine ⟨.openParen :: .identifier :: conditional.condition.relation.token.kind ::
    (kinds conditional.condition.operand.tokens ++ [.closeParen]), ?_, ?_⟩
  · simp [Conditional.header, Condition.tokens, conditional.word.kind_eq,
      conditional.left.kind_eq, conditional.right.kind_eq, conditional.condition.subject.kind_eq]
  · refine List.cons_subset.mpr ⟨by decide, List.cons_subset.mpr ⟨by decide,
      List.cons_subset.mpr ⟨relation, List.append_subset.mpr ⟨operand, by decide⟩⟩⟩⟩

/-- A statement has no semicolon but its last token. -/
theorem Form.semicolon_not_mem_stem (form : Form) : .semicolon ∉ kinds form.stem := by
  cases form with
  | declaration tree =>
    rcases tree.word.kind_eq_or with kind | kind <;>
      simp [stem, tree.name.kind_eq, tree.colon.kind_eq, kind]
  | simple tree => exact fun member => absurd (tree.kinds_stem_subset member) (by decide)
  | conditional tree =>
    obtain ⟨behind, header, within⟩ := tree.kinds_header_subset
    rw [stem, kinds, List.map_append, ← kinds, header, List.cons_append]
    intro member
    rcases List.mem_append.mp (List.mem_of_ne_of_mem (by decide) member) with among | among
    · exact absurd (within among) (by decide)
    · exact absurd (tree.body.kinds_stem_subset among) (by decide)

/-- A semicolon among the tokens of a program closes a statement of it. -/
theorem exists_form_of_semicolon {program : List Form} {front rest : List Token} {token : Token}
    (whole : programTokens program = front ++ token :: rest) (kind : token.kind = .semicolon) :
    ∃ done form later, program = done ++ form :: later ∧ front = programTokens done ++ form.stem ∧
      rest = programTokens later := by
  induction program generalizing front with
  | nil => exact absurd whole.symm (List.append_ne_nil_of_right_ne_nil _ (List.cons_ne_nil _ _))
  | cons form program inductionHypothesis =>
    have split : form.stem ++ form.semicolon.token :: programTokens program =
        front ++ token :: rest := by
      rw [← whole, programTokens_cons, form.tokens_eq_stem_append, List.append_assoc]
      rfl
    -- The token does not stand in the stem, so it is the semicolon of this statement or stands
    -- behind it.
    rcases List.append_eq_append_iff.mp split with ⟨inside, rfl, behind⟩ | ⟨inside, stem, behind⟩
    · cases inside with
      | nil =>
        obtain ⟨-, rfl⟩ := List.cons.inj behind
        exact ⟨[], form, program, rfl, List.append_nil _, rfl⟩
      | cons first inside =>
        obtain ⟨-, later⟩ := List.cons.inj behind
        obtain ⟨done, next, more, rfl, rfl, rfl⟩ := inductionHypothesis later
        refine ⟨form :: done, next, more, rfl, ?_, rfl⟩
        obtain ⟨rfl, -⟩ := List.cons.inj behind
        rw [programTokens_cons, form.tokens_eq_stem_append]
        simp only [List.append_assoc, List.cons_append, List.nil_append]
    · cases inside with
      | nil =>
        obtain ⟨-, rfl⟩ := List.cons.inj behind
        rw [List.append_nil] at stem
        exact ⟨[], form, program, rfl, stem.symm, rfl⟩
      | cons first inside =>
        obtain ⟨rfl, -⟩ := List.cons.inj behind
        refine absurd ?_ form.semicolon_not_mem_stem
        rw [stem, ← kind]
        exact List.mem_map_of_mem (List.mem_append_right _ List.mem_cons_self)

/-! ### The juncture behind a stem -/

/-- The juncture behind what an output shows. -/
def Shown.closing : Shown → Juncture
  | .text _ => .semicolon
  | .value _ => .more

/-- The juncture behind the stem of a guarded statement. -/
def Guarded.closing : Guarded → Juncture
  | .assignment _ => .more
  | .output tree => tree.shown.closing

/-- The juncture behind the stem of a statement. -/
def Form.closing : Form → Juncture
  | .declaration _ => .semicolon
  | .simple tree => tree.closing
  | .conditional tree => tree.body.closing

theorem Guarded.closing_cases (guarded : Guarded) :
    guarded.closing = .semicolon ∨ guarded.closing = .more := by
  cases guarded with
  | assignment tree => exact Or.inr rfl
  | output tree =>
    rw [closing]
    cases tree.shown with
    | text literal => exact Or.inl rfl
    | value sum => exact Or.inr rfl

theorem Form.closing_cases (form : Form) : form.closing = .semicolon ∨ form.closing = .more := by
  cases form with
  | declaration tree => exact Or.inl rfl
  | simple tree => exact tree.closing_cases
  | conditional tree => exact tree.body.closing_cases

/-- Behind a stem a semicolon can come next, and closes the statement. -/
theorem Form.next_closing_semicolon (form : Form) : form.closing.next .semicolon = some .start := by
  rcases form.closing_cases with closing | closing <;> rw [closing] <;> rfl

namespace Juncture

variable {here there : Juncture}

theorem eq_of_next_colon (leads : here.next .colon = some there) : there = typeWord := by
  cases here <;> simp_all [next, only]

theorem eq_of_next_colonEquals (leads : here.next .colonEquals = some there) :
    there = operand .sum := by
  cases here <;> simp_all [next, only]

theorem eq_of_next_lessLess (leads : here.next .lessLess = some there) :
    there = operand .shown := by
  cases here <;> simp_all [next, only]

/-- Behind a sum, whatever it was read for, a summand or a semicolon is due. -/
theorem Accepts.eq_more {slot : Slot} {sum : Sum} (sums : slot.behind = .more)
    (reads : (operand slot).Accepts there sum.tokens) : there = more := by
  have whole := read_sum sums sum []
  rw [List.append_nil] at whole
  exact Option.some.inj (reads.symm.trans whole)

theorem Accepts.eq_shownClosing {shown : Shown}
    (reads : (operand .shown).Accepts there shown.tokens) : there = shown.closing := by
  cases shown with
  | text literal =>
    obtain ⟨behind, text, rest⟩ := accepts_cons_iff.mp reads
    rw [literal.kind_eq] at text
    exact (accepts_nil_iff.mp rest).symm.trans (Option.some.inj text).symm
  | value sum => exact reads.eq_more rfl

theorem Accepts.eq_guardedClosing {guarded : Guarded}
    (reads : here.Accepts there guarded.stem) : there = guarded.closing := by
  cases guarded with
  | assignment tree =>
    obtain ⟨signed, -, rest⟩ := accepts_cons_iff.mp reads
    obtain ⟨valued, sign, rest⟩ := accepts_cons_iff.mp rest
    rw [tree.sign.kind_eq] at sign
    rw [eq_of_next_colonEquals sign] at rest
    exact rest.eq_more rfl
  | output tree =>
    obtain ⟨signed, -, rest⟩ := accepts_cons_iff.mp reads
    obtain ⟨valued, sign, rest⟩ := accepts_cons_iff.mp rest
    rw [tree.sign.kind_eq] at sign
    rw [eq_of_next_lessLess sign] at rest
    exact rest.eq_shownClosing

/-- Wherever the stem of a statement can be read, it leads to the same juncture. -/
theorem Accepts.eq_closing {form : Form} (reads : here.Accepts there form.stem) :
    there = form.closing := by
  cases form with
  | declaration tree =>
    obtain ⟨signed, -, rest⟩ := accepts_cons_iff.mp reads
    obtain ⟨due, colon, rest⟩ := accepts_cons_iff.mp rest
    obtain ⟨behind, word, rest⟩ := accepts_cons_iff.mp rest
    rw [tree.colon.kind_eq] at colon
    rw [eq_of_next_colon colon, next, only, if_pos tree.word.allowed] at word
    exact (accepts_nil_iff.mp rest).symm.trans (Option.some.inj word).symm
  | simple tree => exact reads.eq_guardedClosing
  | conditional tree =>
    unfold Accepts Form.stem at reads
    rw [kinds, List.map_append, read_append] at reads
    obtain ⟨behind, -, rest⟩ := Option.bind_eq_some_iff.mp reads
    exact Accepts.eq_guardedClosing rest

end Juncture

end HLang.Grammar
