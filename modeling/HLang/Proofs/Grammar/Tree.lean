/-
This file states the grammar of the language as trees. A leaf is a token together with the
knowledge of its kind, so a tree is well formed by being a tree: there is one constructor for
each way a production can be written, and one leaf for each of its tokens. The tokens of a tree,
read from left to right, are the text it derives; a program is a list of statement trees.

Nothing here says how a program is checked. `Form.statement` says what checking a statement
tree has to yield: its form, the stretch of source it covers and the number of its tokens.
-/

import HLang.Statement
import HLang.Symbols
import HLang.Token

namespace HLang.Grammar

/-! ### Leaves -/

/-- A token whose kind is one of those that a production allows in its place. -/
structure Leaf (kinds : List TokenKind) where
  token : Token
  allowed : token.kind ∈ kinds

theorem Leaf.kind_eq {kind : TokenKind} (leaf : Leaf [kind]) : leaf.token.kind = kind :=
  List.mem_singleton.mp leaf.allowed

theorem Leaf.kind_eq_or {first second : TokenKind} (leaf : Leaf [first, second]) :
    leaf.token.kind = first ∨ leaf.token.kind = second := by
  simpa using leaf.allowed

/-- A number, without a sign. -/
abbrev Numeral := Leaf [.integerLiteral, .doubleLiteral]

/-- The word for a type. -/
abbrev TypeWord := Leaf [.integerWord, .doubleWord]

/-- One of the six signs that compare two values. -/
abbrev Relation := Leaf [.less, .lessEquals, .greater, .greaterEquals, .equals, .notEquals]

def Numeral.type (numeral : Numeral) : ScalarType :=
  if numeral.token.kind = .integerLiteral then .integer else .double

def TypeWord.type (word : TypeWord) : ScalarType :=
  if word.token.kind = .integerWord then .integer else .double

/-! ### Expressions -/

/-- A variable, or a number with or without a minus sign. -/
inductive Operand where
  | named (name : Leaf [.identifier])
  | number (numeral : Numeral)
  | negative (sign : Leaf [.dash]) (numeral : Numeral)

def Operand.tokens : Operand → List Token
  | .named name => [name.token]
  | .number numeral => [numeral.token]
  | .negative sign numeral => [sign.token, numeral.token]

/-- A further operand of a sum, with the sign that joins it to those before it. -/
structure Summand where
  sign : Leaf [.plus, .dash]
  operand : Operand

def Summand.tokens (summand : Summand) : List Token :=
  summand.sign.token :: summand.operand.tokens

/-- An expression: one operand, or several with signs between them. -/
structure Sum where
  first : Operand
  more : List Summand

namespace Sum

def tokens (sum : Sum) : List Token :=
  sum.first.tokens ++ sum.more.flatMap Summand.tokens

/-- The operands of an expression, from left to right. -/
def operands (sum : Sum) : List Operand :=
  sum.first :: sum.more.map Summand.operand

theorem exists_operand_iff (sum : Sum) (property : Operand → Prop) :
    (∃ operand ∈ sum.operands, property operand) ↔
      property sum.first ∨ ∃ summand ∈ sum.more, property summand.operand := by
  constructor
  · rintro ⟨operand, member, holds⟩
    rcases List.mem_cons.mp member with rfl | later
    · exact Or.inl holds
    · obtain ⟨summand, among, rfl⟩ := List.mem_map.mp later
      exact Or.inr ⟨summand, among, holds⟩
  · rintro (holds | ⟨summand, among, holds⟩)
    · exact ⟨sum.first, List.mem_cons_self, holds⟩
    · exact ⟨summand.operand, List.mem_cons_of_mem _ (List.mem_map_of_mem among), holds⟩

end Sum

/-! ### Statements -/

/-- `name : type ;` -/
structure Declaration where
  name : Leaf [.identifier]
  colon : Leaf [.colon]
  word : TypeWord
  semicolon : Leaf [.semicolon]

def Declaration.tokens (declaration : Declaration) : List Token :=
  [declaration.name.token, declaration.colon.token, declaration.word.token] ++
    [declaration.semicolon.token]

/-- `target := value ;` -/
structure Assignment where
  target : Leaf [.identifier]
  sign : Leaf [.colonEquals]
  value : Sum
  semicolon : Leaf [.semicolon]

def Assignment.tokens (assignment : Assignment) : List Token :=
  [assignment.target.token, assignment.sign.token] ++ assignment.value.tokens ++
    [assignment.semicolon.token]

/-- What an output shows: a string literal by itself, or an expression. -/
inductive Shown where
  | text (literal : Leaf [.stringLiteral])
  | value (sum : Sum)

def Shown.tokens : Shown → List Token
  | .text literal => [literal.token]
  | .value sum => sum.tokens

/-- `output << shown ;` -/
structure Output where
  word : Leaf [.outputWord]
  sign : Leaf [.lessLess]
  shown : Shown
  semicolon : Leaf [.semicolon]

def Output.tokens (output : Output) : List Token :=
  [output.word.token, output.sign.token] ++ output.shown.tokens ++ [output.semicolon.token]

/-- What a conditional may guard: an assignment or an output. -/
inductive Guarded where
  | assignment (assignment : Assignment)
  | output (output : Output)

namespace Guarded

def tokens : Guarded → List Token
  | .assignment tree => tree.tokens
  | .output tree => tree.tokens

/-- The first token of a guarded statement. -/
def head : Guarded → Token
  | .assignment tree => tree.target.token
  | .output tree => tree.word.token

/-- The semicolon that closes a guarded statement. -/
def last : Guarded → Token
  | .assignment tree => tree.semicolon.token
  | .output tree => tree.semicolon.token

def kind : Guarded → StatementKind
  | .assignment _ => .assignment
  | .output _ => .output

end Guarded

/-- `subject relation operand` -/
structure Condition where
  subject : Leaf [.identifier]
  relation : Relation
  operand : Operand

def Condition.tokens (condition : Condition) : List Token :=
  [condition.subject.token, condition.relation.token] ++ condition.operand.tokens

/-- `If ( condition )`, a conditional up to its body. -/
structure Header where
  word : Leaf [.ifWord]
  left : Leaf [.openParen]
  condition : Condition
  right : Leaf [.closeParen]

def Header.tokens (header : Header) : List Token :=
  [header.word.token, header.left.token] ++ header.condition.tokens ++ [header.right.token]

/-- `If ( condition ) body` -/
structure Conditional where
  word : Leaf [.ifWord]
  left : Leaf [.openParen]
  condition : Condition
  right : Leaf [.closeParen]
  body : Guarded

namespace Conditional

def tokens (conditional : Conditional) : List Token :=
  [conditional.word.token, conditional.left.token] ++ (conditional.condition.tokens ++
    (conditional.right.token :: conditional.body.tokens))

/-- The tokens from the word `If` to the closing parenthesis. -/
def header (conditional : Conditional) : List Token :=
  [conditional.word.token, conditional.left.token] ++ conditional.condition.tokens ++
    [conditional.right.token]

theorem tokens_eq_header_append (conditional : Conditional) :
    conditional.tokens = conditional.header ++ conditional.body.tokens := by
  simp [tokens, header]

/-- A conditional without its body; its tokens are those of `header`. -/
def opening (conditional : Conditional) : Header :=
  ⟨conditional.word, conditional.left, conditional.condition, conditional.right⟩

end Conditional

/-- A statement. -/
inductive Form where
  | declaration (declaration : Declaration)
  | simple (guarded : Guarded)
  | conditional (conditional : Conditional)

def Form.tokens : Form → List Token
  | .declaration tree => tree.tokens
  | .simple tree => tree.tokens
  | .conditional tree => tree.tokens

/-! ### What checking a statement yields -/

/-- The clause that consists of the given tokens, from its first to its last one. -/
def clauseOf (kind : StatementKind) (first last : Token) (tokens : List Token) : Clause :=
  ⟨kind, ⟨first.span.start, last.span.stop⟩, tokens.length⟩

def Declaration.clause (declaration : Declaration) : Clause :=
  clauseOf .declaration declaration.name.token declaration.semicolon.token declaration.tokens

def Guarded.clause (guarded : Guarded) : Clause :=
  clauseOf guarded.kind guarded.head guarded.last guarded.tokens

/-- The clause of a conditional ends where its body ends. -/
def Conditional.clause (conditional : Conditional) : Clause :=
  clauseOf .conditional conditional.word.token conditional.body.last conditional.tokens

/-- The checked statement that a statement tree stands for. -/
def Form.statement : Form → Statement
  | .declaration tree => tree.clause.alone
  | .simple tree => tree.clause.alone
  | .conditional tree => ⟨tree.clause, some tree.body.clause⟩

theorem Form.tokens_statement (form : Form) :
    form.statement.tokens = form.tokens.length := by
  cases form <;> rfl

/-- The body of a conditional is made of its last tokens. -/
theorem Form.tokens_body {form : Form} {body : Clause}
    (guards : form.statement.body = some body) :
    ∃ first, first + body.tokens = form.tokens.length := by
  cases form with
  | declaration tree => exact absurd guards (by simp [statement, Clause.alone])
  | simple tree => exact absurd guards (by simp [statement, Clause.alone])
  | conditional tree =>
    obtain rfl := Option.some.inj guards
    refine ⟨tree.header.length, ?_⟩
    rw [tokens, Conditional.tokens_eq_header_append, List.length_append]
    rfl

/-! ### Programs -/

/-- The tokens of a program. -/
def programTokens (program : List Form) : List Token :=
  program.flatMap Form.tokens

theorem programTokens_cons (form : Form) (program : List Form) :
    programTokens (form :: program) = form.tokens ++ programTokens program := rfl

theorem programTokens_append (first second : List Form) :
    programTokens (first ++ second) = programTokens first ++ programTokens second :=
  List.flatMap_append

/-- The tokens of a list before the first end of input in it. -/
def beforeEnd (tokens : List Token) : List Token :=
  tokens.takeWhile fun token => token.kind ≠ .endOfInput

/-! ### The end of input stands in no tree -/

/-- None of the tokens ends the input. -/
def NoEnd (tokens : List Token) : Prop :=
  ∀ token ∈ tokens, token.kind ≠ .endOfInput

theorem noEnd_append {first second : List Token} (firstNoEnd : NoEnd first)
    (secondNoEnd : NoEnd second) : NoEnd (first ++ second) := by
  intro token member
  rcases List.mem_append.mp member with among | among
  · exact firstNoEnd token among
  · exact secondNoEnd token among

theorem noEnd_cons {kinds : List TokenKind} (leaf : Leaf kinds)
    (other : TokenKind.endOfInput ∉ kinds) {more : List Token} (moreNoEnd : NoEnd more) :
    NoEnd (leaf.token :: more) := by
  intro token member
  rcases List.mem_cons.mp member with rfl | among
  · exact fun isEnd => other (isEnd ▸ leaf.allowed)
  · exact moreNoEnd token among

theorem noEnd_nil : NoEnd [] :=
  fun _ member => absurd member List.not_mem_nil

theorem Operand.noEnd (operand : Operand) : NoEnd operand.tokens := by
  cases operand with
  | named name => exact noEnd_cons name (by decide) noEnd_nil
  | number numeral => exact noEnd_cons numeral (by decide) noEnd_nil
  | negative sign numeral =>
    exact noEnd_cons sign (by decide) (noEnd_cons numeral (by decide) noEnd_nil)

theorem Sum.noEnd (sum : Sum) : NoEnd sum.tokens := by
  refine noEnd_append sum.first.noEnd fun token member => ?_
  obtain ⟨summand, -, among⟩ := List.mem_flatMap.mp member
  exact noEnd_cons summand.sign (by decide) summand.operand.noEnd token among

theorem Guarded.noEnd (guarded : Guarded) : NoEnd guarded.tokens := by
  cases guarded with
  | assignment tree =>
    exact noEnd_append (noEnd_cons tree.target (by decide)
      (noEnd_cons tree.sign (by decide) tree.value.noEnd))
      (noEnd_cons tree.semicolon (by decide) noEnd_nil)
  | output tree =>
    have shown : NoEnd tree.shown.tokens := by
      cases tree.shown with
      | text literal => exact noEnd_cons literal (by decide) noEnd_nil
      | value sum => exact sum.noEnd
    exact noEnd_append (noEnd_cons tree.word (by decide) (noEnd_cons tree.sign (by decide) shown))
      (noEnd_cons tree.semicolon (by decide) noEnd_nil)

theorem Condition.noEnd (condition : Condition) : NoEnd condition.tokens :=
  noEnd_cons condition.subject (by decide)
    (noEnd_cons condition.relation (by decide) condition.operand.noEnd)

theorem Form.noEnd (form : Form) : NoEnd form.tokens := by
  cases form with
  | declaration tree =>
    exact noEnd_cons tree.name (by decide) (noEnd_cons tree.colon (by decide)
      (noEnd_cons tree.word (by decide) (noEnd_cons tree.semicolon (by decide) noEnd_nil)))
  | simple tree => exact tree.noEnd
  | conditional tree =>
    show NoEnd (tree.word.token :: tree.left.token ::
      (tree.condition.tokens ++ tree.right.token :: tree.body.tokens))
    exact noEnd_cons tree.word (by decide) (noEnd_cons tree.left (by decide)
      (noEnd_append tree.condition.noEnd (noEnd_cons tree.right (by decide) tree.body.noEnd)))

theorem Form.tokens_ne_nil (form : Form) : form.tokens ≠ [] := by
  cases form with
  | declaration tree => exact List.cons_ne_nil _ _
  | simple tree => cases tree <;> exact List.cons_ne_nil _ _
  | conditional tree => exact List.cons_ne_nil _ _

theorem beforeEnd_append {front : List Token} (noEnd : NoEnd front) (rest : List Token) :
    beforeEnd (front ++ rest) = front ++ beforeEnd rest :=
  List.takeWhile_append_of_pos fun token member => decide_eq_true (noEnd token member)

/-- The tokens before the end, if a statement tree stands at the front. -/
theorem beforeEnd_of_isPrefix {form : Form} {tokens : List Token}
    (front : form.tokens <+: tokens) :
    beforeEnd tokens = form.tokens ++ beforeEnd (tokens.drop form.tokens.length) := by
  obtain ⟨rest, rfl⟩ := front
  rw [List.drop_left, beforeEnd_append form.noEnd]

end HLang.Grammar
