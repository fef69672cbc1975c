/-
This file reads programs one kind of token at a time. A juncture says what may come next: a
statement, the sign behind the identifier that opens one, an operand, and so on. Reading a token
leads from a juncture to another, or nowhere if no token of its kind can stand there.

The trees of the grammar and the junctures speak of the same programs: by `accepts_start_iff` the
tokens that lead from the start back to it are exactly those of programs. No juncture is a dead end,
so by `exists_read_iff` a list of tokens can be read exactly if some program starts with tokens of
these kinds. That makes "no program goes on like this" a matter of one step of the reading.
-/

import HLang.Proofs.Grammar.Tree

namespace HLang.Grammar

/-- The kinds of some tokens, in order. -/
abbrev kinds (tokens : List Token) : List TokenKind :=
  tokens.map Token.kind

/-- Some program starts with tokens of the same kinds. -/
def Viable (tokens : List Token) : Prop :=
  ∃ program, kinds tokens <+: kinds (programTokens program)

/-! ### Junctures -/

/-- Where an operand can stand: in a sum, at the front of what an output shows, or on the right
of a condition. -/
inductive Slot where
  | sum
  | shown
  | condition
deriving DecidableEq

/-- What may come next in a program. Junctures are named after the token that is due there, or
after the token before it where several may follow. -/
inductive Juncture where
  | start
  | named
  | typeWord
  | semicolon
  | operand (slot : Slot)
  | digits (slot : Slot)
  | more
  | outputSign
  | left
  | subject
  | relation
  | right
  | body
  | target
deriving DecidableEq

/-- The juncture behind an operand: a sum may go on, a condition is closed. -/
def Slot.behind : Slot → Juncture
  | .sum | .shown => .more
  | .condition => .right

namespace Juncture

/-- The way on from a juncture where one of some kinds is due and all lead to the same juncture. -/
def only (allowed : List TokenKind) (there : Juncture) (kind : TokenKind) : Option Juncture :=
  if kind ∈ allowed then some there else none

/-- The juncture behind a token of the given kind, if one can stand at the juncture. -/
def next (here : Juncture) (kind : TokenKind) : Option Juncture :=
  match here with
  | start =>
    match kind with
    | .identifier => some named
    | .outputWord => some outputSign
    | .ifWord => some left
    | _ => none
  | named =>
    match kind with
    | .colon => some typeWord
    | .colonEquals => some (operand .sum)
    | _ => none
  | typeWord => only [.integerWord, .doubleWord] semicolon kind
  | semicolon => only [.semicolon] start kind
  | operand slot =>
    match kind with
    | .identifier | .integerLiteral | .doubleLiteral => some slot.behind
    | .dash => some (digits slot)
    | .stringLiteral => if slot = .shown then some semicolon else none
    | _ => none
  | digits slot => only [.integerLiteral, .doubleLiteral] slot.behind kind
  | more =>
    match kind with
    | .plus | .dash => some (operand .sum)
    | .semicolon => some start
    | _ => none
  | outputSign => only [.lessLess] (operand .shown) kind
  | left => only [.openParen] subject kind
  | subject => only [.identifier] relation kind
  | relation =>
    only [.less, .lessEquals, .greater, .greaterEquals, .equals, .notEquals]
      (operand .condition) kind
  | right => only [.closeParen] body kind
  | body =>
    match kind with
    | .identifier => some target
    | .outputWord => some outputSign
    | _ => none
  | target => only [.colonEquals] (operand .sum) kind

/-- The junctures between statements and in front of the body of a conditional: every tree that was
begun ends there, but for the conditional itself. -/
def IsBorder (here : Juncture) : Prop :=
  here = start ∨ here = body

/-- The juncture behind tokens of the given kinds. -/
def read (here : Juncture) (kinds : List TokenKind) : Option Juncture :=
  kinds.foldlM next here

theorem read_nil (here : Juncture) : here.read [] = some here := rfl

theorem read_cons (here : Juncture) (kind : TokenKind) (more : List TokenKind) :
    here.read (kind :: more) = (here.next kind).bind fun there => there.read more :=
  List.foldlM_cons ..

theorem read_append (here : Juncture) (first second : List TokenKind) :
    here.read (first ++ second) = (here.read first).bind fun there => there.read second :=
  List.foldlM_append ..

theorem next_endOfInput (here : Juncture) : here.next .endOfInput = none := by
  cases here <;> rfl

/-! The ways on from the junctures where several kinds can come next. -/

theorem next_start_iff {kind : TokenKind} {there : Juncture} :
    start.next kind = some there ↔
      kind ∈ [TokenKind.identifier] ∧ named = there ∨
      kind ∈ [TokenKind.outputWord] ∧ outputSign = there ∨
      kind ∈ [TokenKind.ifWord] ∧ left = there := by
  cases kind <;> simp [next]

theorem next_named_iff {kind : TokenKind} {there : Juncture} :
    named.next kind = some there ↔
      kind ∈ [TokenKind.colon] ∧ typeWord = there ∨
      kind ∈ [TokenKind.colonEquals] ∧ operand .sum = there := by
  cases kind <;> simp [next]

theorem next_operand_iff {slot : Slot} {kind : TokenKind} {there : Juncture} :
    (operand slot).next kind = some there ↔
      kind ∈ [TokenKind.identifier] ∧ slot.behind = there ∨
      kind ∈ [TokenKind.integerLiteral, .doubleLiteral] ∧ slot.behind = there ∨
      kind ∈ [TokenKind.dash] ∧ digits slot = there ∨
      slot = .shown ∧ kind ∈ [TokenKind.stringLiteral] ∧ semicolon = there := by
  cases kind <;> simp [next]

theorem next_more_iff {kind : TokenKind} {there : Juncture} :
    more.next kind = some there ↔
      kind ∈ [TokenKind.plus, .dash] ∧ operand .sum = there ∨
      kind ∈ [TokenKind.semicolon] ∧ start = there := by
  cases kind <;> simp [next]

theorem next_body_iff {kind : TokenKind} {there : Juncture} :
    body.next kind = some there ↔
      kind ∈ [TokenKind.identifier] ∧ target = there ∨
      kind ∈ [TokenKind.outputWord] ∧ outputSign = there := by
  cases kind <;> simp [next]

end Juncture

/-! ### Trees are read from the start to the start -/

/-- A leaf is read by the way on that its kinds have in common. -/
theorem read_leaf {allowed : List TokenKind} {here : Juncture} (leaf : Leaf allowed)
    (there : Juncture) (leads : ∀ kind ∈ allowed, here.next kind = some there)
    (rest : List Token) :
    here.read (kinds (leaf.token :: rest)) = there.read (kinds rest) := by
  rw [kinds, List.map_cons, Juncture.read_cons, leads _ leaf.allowed]
  rfl

theorem read_operand (slot : Slot) (tree : Operand) (rest : List Token) :
    (Juncture.operand slot).read (kinds (tree.tokens ++ rest)) = slot.behind.read (kinds rest) := by
  cases tree with
  | named name => exact read_leaf name slot.behind (by cases slot <;> decide) rest
  | number numeral => exact read_leaf numeral slot.behind (by cases slot <;> decide) rest
  | negative sign numeral =>
    refine (read_leaf sign (.digits slot) (by cases slot <;> decide) _).trans ?_
    exact read_leaf numeral slot.behind (by cases slot <;> decide) rest

theorem read_summands (summands : List Summand) (rest : List Token) :
    Juncture.more.read (kinds (summands.flatMap Summand.tokens ++ rest)) =
      Juncture.more.read (kinds rest) := by
  induction summands with
  | nil => rfl
  | cons summand summands inductionHypothesis =>
    rw [List.flatMap_cons, List.append_assoc]
    refine (read_leaf summand.sign (.operand .sum) (by decide) _).trans ?_
    exact (read_operand .sum summand.operand _).trans inductionHypothesis

theorem read_sum {slot : Slot} (sums : slot.behind = .more) (tree : Sum) (rest : List Token) :
    (Juncture.operand slot).read (kinds (tree.tokens ++ rest)) =
      Juncture.more.read (kinds rest) := by
  rw [Sum.tokens, List.append_assoc, read_operand, sums, read_summands]

/-- What an output shows is read up to a semicolon and with it. -/
theorem read_shown (tree : Shown) (semicolon : Leaf [.semicolon]) (rest : List Token) :
    (Juncture.operand .shown).read (kinds (tree.tokens ++ semicolon.token :: rest)) =
      Juncture.start.read (kinds rest) := by
  cases tree with
  | text literal =>
    refine (read_leaf literal .semicolon (by decide) _).trans ?_
    exact read_leaf semicolon .start (by decide) rest
  | value sum =>
    refine (read_sum rfl sum _).trans ?_
    exact read_leaf semicolon .start (by decide) rest

/-- A guarded statement is read alike from the start and where a body is due. -/
theorem read_guarded {here : Juncture} (border : here.IsBorder) (tree : Guarded)
    (rest : List Token) :
    here.read (kinds (tree.tokens ++ rest)) = Juncture.start.read (kinds rest) := by
  cases tree with
  | assignment tree =>
    have shape : tree.tokens ++ rest =
        tree.target.token :: tree.sign.token ::
          (tree.value.tokens ++ tree.semicolon.token :: rest) := by
      simp [Assignment.tokens]
    have value : (Juncture.operand .sum).read
          (kinds (tree.value.tokens ++ tree.semicolon.token :: rest)) =
        Juncture.start.read (kinds rest) := by
      rw [read_sum rfl]
      exact read_leaf tree.semicolon .start (by decide) rest
    rw [Guarded.tokens, shape, ← value]
    rcases border with rfl | rfl
    · refine (read_leaf tree.target .named (by decide) _).trans ?_
      exact read_leaf tree.sign (.operand .sum) (by decide) _
    · refine (read_leaf tree.target .target (by decide) _).trans ?_
      exact read_leaf tree.sign (.operand .sum) (by decide) _
  | output tree =>
    have shape : tree.tokens ++ rest =
        tree.word.token :: tree.sign.token ::
          (tree.shown.tokens ++ tree.semicolon.token :: rest) := by
      simp [Output.tokens]
    rw [Guarded.tokens, shape, ← read_shown tree.shown tree.semicolon]
    refine (read_leaf tree.word .outputSign ?_ _).trans ?_
    · rcases border with rfl | rfl <;> decide
    · exact read_leaf tree.sign (.operand .shown) (by decide) _

theorem read_header (tree : Header) (rest : List Token) :
    Juncture.start.read (kinds (tree.tokens ++ rest)) = Juncture.body.read (kinds rest) := by
  obtain ⟨word, left, ⟨subject, relation, operand⟩, right⟩ := tree
  have shape : (Header.mk word left ⟨subject, relation, operand⟩ right).tokens ++ rest =
      word.token :: left.token :: subject.token :: relation.token ::
        (operand.tokens ++ right.token :: rest) := by
    simp [Header.tokens, Condition.tokens]
  rw [shape]
  refine (read_leaf word .left (by decide) _).trans ?_
  refine (read_leaf left .subject (by decide) _).trans ?_
  refine (read_leaf subject .relation (by decide) _).trans ?_
  refine (read_leaf relation (.operand .condition) (by decide) _).trans ?_
  rw [read_operand]
  exact read_leaf right .body (by decide) rest

theorem read_form (form : Form) (rest : List Token) :
    Juncture.start.read (kinds (form.tokens ++ rest)) = Juncture.start.read (kinds rest) := by
  cases form with
  | declaration tree =>
    refine (read_leaf tree.name .named (by decide) _).trans ?_
    refine (read_leaf tree.colon .typeWord (by decide) _).trans ?_
    refine (read_leaf tree.word .semicolon (by decide) _).trans ?_
    exact read_leaf tree.semicolon .start (by decide) rest
  | simple tree => exact read_guarded (Or.inl rfl) tree rest
  | conditional tree =>
    rw [Form.tokens, Conditional.tokens_eq_header_append, List.append_assoc]
    exact (read_header tree.opening _).trans (read_guarded (Or.inr rfl) tree.body rest)

theorem read_program (program : List Form) (rest : List Token) :
    Juncture.start.read (kinds (programTokens program ++ rest)) =
      Juncture.start.read (kinds rest) := by
  induction program with
  | nil => rfl
  | cons form program inductionHypothesis =>
    rw [programTokens_cons, List.append_assoc, read_form]
    exact inductionHypothesis

/-! ### What is read to the start is a program -/

namespace Juncture

/-- The tokens lead from the juncture to the goal. -/
def Accepts (here goal : Juncture) (tokens : List Token) : Prop :=
  here.read (kinds tokens) = some goal

theorem accepts_cons_iff {here goal : Juncture} {token : Token} {rest : List Token} :
    here.Accepts goal (token :: rest) ↔
      ∃ there, here.next token.kind = some there ∧ there.Accepts goal rest := by
  unfold Accepts
  rw [kinds, List.map_cons, read_cons, Option.bind_eq_some_iff]

theorem accepts_nil_iff {here goal : Juncture} : here.Accepts goal [] ↔ here = goal := by
  unfold Accepts
  rw [kinds, List.map_nil, read_nil, Option.some.injEq]

namespace Accepts

variable {here there goal : Juncture} {tokens : List Token}

/-- Away from the borders, there is a token to go on with. -/
theorem exists_cons (accepted : here.Accepts goal tokens) (border : goal.IsBorder)
    (inside : ¬ here.IsBorder) :
    ∃ token rest there, tokens = token :: rest ∧ here.next token.kind = some there ∧
      there.Accepts goal rest := by
  cases tokens with
  | nil => exact absurd (accepts_nil_iff.mp accepted ▸ border) inside
  | cons token rest =>
    obtain ⟨there, leads, later⟩ := accepts_cons_iff.mp accepted
    exact ⟨token, rest, there, rfl, leads, later⟩

/-- Where tokens of some kinds are due and all lead to the same juncture, a leaf stands. -/
theorem exists_leaf {allowed : List TokenKind} (accepted : here.Accepts goal tokens)
    (border : goal.IsBorder) (inside : ¬ here.IsBorder)
    (due : ∀ kind, here.next kind = only allowed there kind) :
    ∃ (leaf : Leaf allowed) (rest : List Token),
      tokens = leaf.token :: rest ∧ there.Accepts goal rest := by
  obtain ⟨token, rest, found, rfl, leads, later⟩ := accepted.exists_cons border inside
  rw [due, only, Option.ite_none_right_eq_some, Option.some.injEq] at leads
  obtain ⟨kind, rfl⟩ := leads
  exact ⟨⟨token, kind⟩, rest, rfl, later⟩

/-- Where an operand is due, an operand stands, or the text of an output. -/
theorem exists_operand {slot : Slot} (accepted : (operand slot).Accepts goal tokens)
    (border : goal.IsBorder) :
    (∃ (tree : Operand) (rest : List Token),
      tokens = tree.tokens ++ rest ∧ slot.behind.Accepts goal rest) ∨
    slot = .shown ∧ ∃ (text : Leaf [.stringLiteral]) (rest : List Token),
      tokens = text.token :: rest ∧ semicolon.Accepts goal rest := by
  obtain ⟨token, rest, there, rfl, leads, later⟩ :=
    accepted.exists_cons border (by simp [IsBorder])
  rcases next_operand_iff.mp leads with
    ⟨kind, rfl⟩ | ⟨kind, rfl⟩ | ⟨kind, rfl⟩ | ⟨shown, kind, rfl⟩
  · exact Or.inl ⟨.named ⟨token, kind⟩, rest, rfl, later⟩
  · exact Or.inl ⟨.number ⟨token, kind⟩, rest, rfl, later⟩
  · obtain ⟨numeral, rest, rfl, behind⟩ :=
      later.exists_leaf border (by simp [IsBorder]) fun _ => rfl
    exact Or.inl ⟨.negative ⟨token, kind⟩ numeral, rest, rfl, behind⟩
  · exact Or.inr ⟨shown, ⟨token, kind⟩, rest, rfl, later⟩

/-- Behind an operand of a sum, further summands stand, up to a semicolon. -/
theorem exists_summands (accepted : more.Accepts goal tokens) (border : goal.IsBorder) :
    ∃ (summands : List Summand) (semicolon : Leaf [.semicolon]) (rest : List Token),
      tokens = summands.flatMap Summand.tokens ++ semicolon.token :: rest ∧
        start.Accepts goal rest := by
  -- On the number of tokens: a summand leaves fewer, and without one the list ends.
  induction length : tokens.length using Nat.strongRecOn generalizing tokens with
  | ind count inductionHypothesis =>
  obtain ⟨token, rest, there, rfl, leads, later⟩ :=
    accepted.exists_cons border (by simp [IsBorder])
  rcases next_more_iff.mp leads with ⟨kind, rfl⟩ | ⟨kind, rfl⟩
  · rcases later.exists_operand border with ⟨tree, behind, rfl, again⟩ | ⟨shown, -⟩
    · have shorter : behind.length < count := by
        rw [← length, List.length_cons, List.length_append]
        omega
      obtain ⟨summands, semicolon, after, rfl, done⟩ := inductionHypothesis _ shorter again rfl
      refine ⟨⟨⟨token, kind⟩, tree⟩ :: summands, semicolon, after, ?_, done⟩
      simp [Summand.tokens]
    · exact absurd shown (by decide)
  · exact ⟨[], ⟨token, kind⟩, rest, rfl, later⟩

/-- Behind the target and the sign of an assignment, its value stands, up to a semicolon. -/
theorem exists_assignment (target : Leaf [.identifier]) (sign : Leaf [.colonEquals])
    (accepted : (operand .sum).Accepts goal tokens) (border : goal.IsBorder) :
    ∃ (tree : Assignment) (rest : List Token),
      target.token :: sign.token :: tokens = tree.tokens ++ rest ∧
        start.Accepts goal rest := by
  rcases accepted.exists_operand border with ⟨first, rest, rfl, later⟩ | ⟨shown, -⟩
  · obtain ⟨summands, semicolon, rest, rfl, done⟩ := later.exists_summands border
    refine ⟨⟨target, sign, ⟨first, summands⟩, semicolon⟩, rest, ?_, done⟩
    simp [Assignment.tokens, Sum.tokens]
  · exact absurd shown (by decide)

/-- Behind the word of an output, its sign and what it shows stand, up to a semicolon. -/
theorem exists_output (word : Leaf [.outputWord]) (accepted : outputSign.Accepts goal tokens)
    (border : goal.IsBorder) :
    ∃ (tree : Output) (rest : List Token),
      word.token :: tokens = tree.tokens ++ rest ∧ start.Accepts goal rest := by
  obtain ⟨sign, rest, rfl, shows⟩ :=
    accepted.exists_leaf border (by simp [IsBorder]) fun _ => rfl
  rcases shows.exists_operand border with
    ⟨first, rest, rfl, later⟩ | ⟨-, text, rest, rfl, later⟩
  · obtain ⟨summands, semicolon, rest, rfl, done⟩ := later.exists_summands border
    refine ⟨⟨word, sign, .value ⟨first, summands⟩, semicolon⟩, rest, ?_, done⟩
    simp [Output.tokens, Shown.tokens, Sum.tokens]
  · obtain ⟨semicolon, rest, rfl, done⟩ :=
      later.exists_leaf border (by simp [IsBorder]) fun _ => rfl
    exact ⟨⟨word, sign, .text text, semicolon⟩, rest, rfl, done⟩

/-- Where the body of a conditional is due, a guarded statement stands, unless that was the
goal. -/
theorem exists_guarded (accepted : body.Accepts goal tokens) (border : goal.IsBorder) :
    (body = goal ∧ tokens = []) ∨
    ∃ (tree : Guarded) (rest : List Token),
      tokens = tree.tokens ++ rest ∧ start.Accepts goal rest := by
  cases tokens with
  | nil => exact Or.inl ⟨accepts_nil_iff.mp accepted, rfl⟩
  | cons token rest =>
    refine Or.inr ?_
    obtain ⟨there, leads, later⟩ := accepts_cons_iff.mp accepted
    rcases next_body_iff.mp leads with ⟨kind, rfl⟩ | ⟨kind, rfl⟩
    · obtain ⟨sign, rest, rfl, value⟩ :=
        later.exists_leaf border (by simp [IsBorder]) fun _ => rfl
      obtain ⟨tree, rest, shape, done⟩ := value.exists_assignment ⟨token, kind⟩ sign border
      exact ⟨.assignment tree, rest, shape, done⟩
    · obtain ⟨tree, rest, shape, done⟩ := later.exists_output ⟨token, kind⟩ border
      exact ⟨.output tree, rest, shape, done⟩

/-- Behind the word `If`, the rest of a header and a guarded statement stand, unless the goal was
to be between the two. -/
theorem exists_conditional (word : Leaf [.ifWord]) (accepted : left.Accepts goal tokens)
    (border : goal.IsBorder) :
    (body = goal ∧ ∃ header : Header, word.token :: tokens = header.tokens) ∨
    ∃ (tree : Conditional) (rest : List Token),
      word.token :: tokens = tree.tokens ++ rest ∧ start.Accepts goal rest := by
  obtain ⟨opened, rest, rfl, atSubject⟩ :=
    accepted.exists_leaf border (by simp [IsBorder]) fun _ => rfl
  obtain ⟨subject, rest, rfl, atRelation⟩ :=
    atSubject.exists_leaf border (by simp [IsBorder]) fun _ => rfl
  obtain ⟨relation, rest, rfl, atOperand⟩ :=
    atRelation.exists_leaf border (by simp [IsBorder]) fun _ => rfl
  rcases atOperand.exists_operand border with ⟨operand, rest, rfl, atRight⟩ | ⟨shown, -⟩
  · obtain ⟨closed, rest, rfl, atBody⟩ :=
      atRight.exists_leaf border (by simp [IsBorder, Slot.behind]) fun _ => rfl
    rcases atBody.exists_guarded border with ⟨reached, rfl⟩ | ⟨guarded, rest, rfl, done⟩
    · refine Or.inl ⟨reached, ⟨word, opened, ⟨subject, relation, operand⟩, closed⟩, ?_⟩
      simp [Header.tokens, Condition.tokens]
    · refine Or.inr ⟨⟨word, opened, ⟨subject, relation, operand⟩, closed, guarded⟩, rest, ?_,
        done⟩
      simp [Conditional.tokens, Condition.tokens]
  · exact absurd shown (by decide)

/-- What is read from the start to a border is empty, is the header of a conditional, or begins
with a statement. -/
theorem exists_form (accepted : start.Accepts goal tokens) (border : goal.IsBorder) :
    (start = goal ∧ tokens = []) ∨
    (body = goal ∧ ∃ header : Header, tokens = header.tokens) ∨
    ∃ (form : Form) (rest : List Token),
      tokens = form.tokens ++ rest ∧ start.Accepts goal rest := by
  cases tokens with
  | nil => exact Or.inl ⟨accepts_nil_iff.mp accepted, rfl⟩
  | cons token rest =>
    refine Or.inr ?_
    obtain ⟨there, leads, later⟩ := accepts_cons_iff.mp accepted
    rcases next_start_iff.mp leads with ⟨kind, rfl⟩ | ⟨kind, rfl⟩ | ⟨kind, rfl⟩
    · obtain ⟨second, rest, there, rfl, goesOn, later⟩ :=
        later.exists_cons border (by simp [IsBorder])
      rcases next_named_iff.mp goesOn with ⟨colon, rfl⟩ | ⟨sign, rfl⟩
      · obtain ⟨word, rest, rfl, atSemicolon⟩ :=
          later.exists_leaf border (by simp [IsBorder]) fun _ => rfl
        obtain ⟨semicolon, rest, rfl, done⟩ :=
          atSemicolon.exists_leaf border (by simp [IsBorder]) fun _ => rfl
        exact Or.inr
          ⟨.declaration ⟨⟨token, kind⟩, ⟨second, colon⟩, word, semicolon⟩, rest, rfl, done⟩
      · obtain ⟨tree, rest, shape, done⟩ :=
          later.exists_assignment ⟨token, kind⟩ ⟨second, sign⟩ border
        exact Or.inr ⟨.simple (.assignment tree), rest, shape, done⟩
    · obtain ⟨tree, rest, shape, done⟩ := later.exists_output ⟨token, kind⟩ border
      exact Or.inr ⟨.simple (.output tree), rest, shape, done⟩
    · rcases later.exists_conditional ⟨token, kind⟩ border with
        inside | ⟨tree, rest, shape, done⟩
      · exact Or.inl inside
      · exact Or.inr ⟨.conditional tree, rest, shape, done⟩

/-- What is read from the start to a border is a program, and in front of a body the header of a
conditional behind it. -/
theorem exists_program (accepted : start.Accepts goal tokens) (border : goal.IsBorder) :
    ∃ program rest, tokens = programTokens program ++ rest ∧
      (start = goal ∧ rest = [] ∨ body = goal ∧ ∃ header : Header, rest = header.tokens) := by
  induction length : tokens.length using Nat.strongRecOn generalizing tokens with
  | ind count inductionHypothesis =>
  rcases accepted.exists_form border with ⟨reached, rfl⟩ | inside | ⟨form, rest, rfl, later⟩
  · exact ⟨[], [], rfl, Or.inl ⟨reached, rfl⟩⟩
  · exact ⟨[], tokens, rfl, Or.inr inside⟩
  · have shorter : rest.length < count := by
      have positive := List.length_pos_iff.mpr form.tokens_ne_nil
      rw [← length, List.length_append]
      omega
    obtain ⟨program, last, rfl, ends⟩ := inductionHypothesis _ shorter later rfl
    refine ⟨form :: program, last, ?_, ends⟩
    rw [programTokens_cons, List.append_assoc]

end Accepts

/-- Exactly the programs are read from the start to the start. -/
theorem accepts_start_iff {tokens : List Token} :
    start.Accepts start tokens ↔ ∃ program, programTokens program = tokens := by
  constructor
  · intro accepted
    obtain ⟨program, rest, rfl, ⟨-, rfl⟩ | ⟨reached, -⟩⟩ := accepted.exists_program (Or.inl rfl)
    · exact ⟨program, (List.append_nil _).symm⟩
    · exact absurd reached (by decide)
  · rintro ⟨program, rfl⟩
    have whole := read_program program []
    rwa [List.append_nil] at whole

/-- Exactly the programs with the header of a conditional behind them are read from the start to
the body of a conditional. -/
theorem accepts_body_iff {tokens : List Token} :
    start.Accepts body tokens ↔
      ∃ program, ∃ header : Header, programTokens program ++ header.tokens = tokens := by
  constructor
  · intro accepted
    obtain ⟨program, rest, rfl, ⟨reached, -⟩ | ⟨-, header, rfl⟩⟩ :=
      accepted.exists_program (Or.inr rfl)
    · exact absurd reached (by decide)
    · exact ⟨program, header, rfl⟩
  · rintro ⟨program, header, rfl⟩
    have opened := read_header header []
    rw [List.append_nil] at opened
    exact (read_program program header.tokens).trans opened

/-! ### No juncture is a dead end -/

/-- The kinds of a way from a juncture to the end of a statement. -/
def completion : Juncture → List TokenKind
  | start => []
  | named | target => [.colonEquals, .integerLiteral, .semicolon]
  | typeWord => [.integerWord, .semicolon]
  | semicolon | more => [.semicolon]
  | operand .condition | digits .condition =>
    [.integerLiteral, .closeParen, .outputWord, .lessLess, .integerLiteral, .semicolon]
  | operand _ | digits _ => [.integerLiteral, .semicolon]
  | outputSign => [.lessLess, .integerLiteral, .semicolon]
  | left =>
    [.openParen, .identifier, .less, .integerLiteral, .closeParen, .outputWord, .lessLess,
      .integerLiteral, .semicolon]
  | subject =>
    [.identifier, .less, .integerLiteral, .closeParen, .outputWord, .lessLess,
      .integerLiteral, .semicolon]
  | relation =>
    [.less, .integerLiteral, .closeParen, .outputWord, .lessLess, .integerLiteral, .semicolon]
  | right => [.closeParen, .outputWord, .lessLess, .integerLiteral, .semicolon]
  | body => [.outputWord, .lessLess, .integerLiteral, .semicolon]

theorem read_completion (here : Juncture) : here.read here.completion = some start := by
  cases here with
  | operand slot => cases slot <;> rfl
  | digits slot => cases slot <;> rfl
  | _ => rfl

/-- Kinds can be read exactly if some program starts with tokens of these kinds. -/
theorem exists_read_iff {tokens : List Token} :
    (∃ there, start.read (kinds tokens) = some there) ↔ Viable tokens := by
  constructor
  · rintro ⟨there, reads⟩
    let more : List Token := there.completion.map fun kind => ⟨kind, "", default⟩
    have spelled : kinds more = there.completion := by
      simp [kinds, more, Function.comp_def]
    have accepted : start.Accepts start (tokens ++ more) := by
      unfold Accepts
      rw [kinds, List.map_append, read_append, reads]
      show there.read (kinds more) = _
      rw [spelled]
      exact read_completion there
    obtain ⟨program, whole⟩ := accepts_start_iff.mp accepted
    refine ⟨program, ?_⟩
    rw [whole, kinds, kinds, List.map_append]
    exact List.prefix_append _ _
  · rintro ⟨program, rest, whole⟩
    have accepted : start.read (kinds tokens ++ rest) = some start := by
      rw [whole]
      exact accepts_start_iff.mpr ⟨program, rfl⟩
    rw [read_append] at accepted
    obtain ⟨there, reads, -⟩ := Option.bind_eq_some_iff.mp accepted
    exact ⟨there, reads⟩

/-- No program starts with kinds that cannot be read on from where the first of them lead. -/
theorem not_viable_of_read {tokens more : List Token} {here : Juncture}
    (reads : start.read (kinds tokens) = some here) (refused : here.read (kinds more) = none) :
    ¬ Viable (tokens ++ more) := by
  intro viable
  obtain ⟨there, further⟩ := exists_read_iff.mpr viable
  rw [kinds, List.map_append, read_append, reads] at further
  exact absurd (refused.symm.trans further) (by simp)

/-- The kinds of a whole program lead back to the start. -/
theorem eq_start_of_read {tokens : List Token} {here : Juncture} {program : List Form}
    (reads : start.read (kinds tokens) = some here)
    (same : kinds (programTokens program) = kinds tokens) : here = start := by
  have whole : start.read (kinds tokens) = some start := by
    rw [← same]
    exact accepts_start_iff.mpr ⟨program, rfl⟩
  exact Option.some.inj (reads.symm.trans whole)

end Juncture

end HLang.Grammar
