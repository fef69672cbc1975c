/-
This file says where an expression ends and what its type depends on. No token closes an expression
and the same dash is a sign between two operands or the sign of a number, so neither is plain from a
single token. Both are decided by the list of all tokens and the index of the mark: at most one
expression that no sign follows begins there, because an operand is fixed by the tokens that it
begins with, and a sum goes on for as long as signs follow.

The type is read off the operands as a set. What an operand adds to it is decided by the kind and
value of its last token, so moving operands about, joining them by other signs and writing them
elsewhere changes nothing.
-/

import HLang.Proofs.Run.Reported
import HLang.Proofs.Session.Strides
import HLang.Proofs.Token.Lexemes

namespace HLang

open Step (IsSign)

namespace Grammar

/-! ### Trees are read in one way -/

theorem Leaf.eq_of_token {kinds : List TokenKind} {first second : Leaf kinds}
    (same : first.token = second.token) : first = second := by
  obtain ⟨token, allowed⟩ := first
  obtain ⟨other, otherAllowed⟩ := second
  cases same
  rfl

/-- Leaves that allow different kinds hold different tokens. -/
theorem Leaf.token_ne {kinds others : List TokenKind} (apart : ∀ kind ∈ kinds, kind ∉ others)
    (first : Leaf kinds) (second : Leaf others) : first.token ≠ second.token :=
  fun same => apart _ first.allowed (same ▸ second.allowed)

theorem Operand.tokens_injective : Function.Injective Operand.tokens := by
  intro first second same
  cases first with
  | named name =>
    cases second with
    | named other => rw [Leaf.eq_of_token (List.singleton_inj.mp same)]
    | number numeral =>
      exact absurd (List.singleton_inj.mp same) (Leaf.token_ne (by decide) name numeral)
    | negative sign numeral => cases congrArg List.length same
  | number numeral =>
    cases second with
    | named other =>
      exact absurd (List.singleton_inj.mp same) (Leaf.token_ne (by decide) numeral other)
    | number other => rw [Leaf.eq_of_token (List.singleton_inj.mp same)]
    | negative sign other => cases congrArg List.length same
  | negative sign numeral =>
    cases second with
    | named other => cases congrArg List.length same
    | number other => cases congrArg List.length same
    | negative otherSign other =>
      obtain ⟨signs, numerals⟩ := List.cons.inj same
      rw [Leaf.eq_of_token signs, Leaf.eq_of_token (List.singleton_inj.mp numerals)]

/-- The tokens at a place begin with one operand at most. -/
theorem Operand.eq_of_isPrefix {first second : Operand} {whole : List Token}
    (front : first.tokens <+: whole) (otherFront : second.tokens <+: whole) : first = second := by
  have length := Operand.length_eq_of_isPrefix front otherFront
  have same : first.tokens = second.tokens := by
    rw [List.prefix_iff_eq_take.mp front, List.prefix_iff_eq_take.mp otherFront, length]
  exact tokens_injective same

/-- The summands are all that stand at the front: behind them no sign goes on. -/
structure Exhausts (more : List Summand) (whole : List Token) : Prop where
  front : more.flatMap Summand.tokens <+: whole
  ended : ∀ token, whole[(more.flatMap Summand.tokens).length]? = some token → ¬ IsSign token.kind

theorem Exhausts.tail {summand : Summand} {more : List Summand} {whole : List Token}
    (exhausts : Exhausts (summand :: more) whole) :
    Exhausts more (whole.drop summand.tokens.length) := by
  obtain ⟨front, ended⟩ := exhausts
  rw [List.flatMap_cons] at front ended
  refine ⟨(append_isPrefix_iff.mp front).2, fun token found => ended token ?_⟩
  rw [List.length_append, ← List.getElem?_drop]
  exact found

theorem Exhausts.head_isPrefix {summand : Summand} {more : List Summand} {whole : List Token}
    (exhausts : Exhausts (summand :: more) whole) : summand.tokens <+: whole :=
  (append_isPrefix_iff.mp (List.flatMap_cons ▸ exhausts.front)).1

theorem not_exhausts_nil {summand : Summand} {whole : List Token}
    (front : summand.tokens <+: whole) : ¬ Exhausts [] whole := by
  rintro ⟨-, ended⟩
  obtain ⟨rest, rfl⟩ := front
  exact ended summand.sign.token rfl summand.sign.kind_eq_or

theorem Summand.eq_of_isPrefix {first second : Summand} {whole : List Token}
    (front : first.tokens <+: whole) (otherFront : second.tokens <+: whole) : first = second := by
  obtain ⟨sign, operand⟩ := first
  obtain ⟨otherSign, other⟩ := second
  obtain ⟨signFront, operandFront⟩ := cons_isPrefix_iff.mp front
  obtain ⟨otherSignFront, otherOperandFront⟩ := cons_isPrefix_iff.mp otherFront
  have signs : sign.token = otherSign.token := by
    obtain ⟨rest, rfl⟩ := signFront
    exact (List.cons_prefix_cons.mp otherSignFront).1.symm
  exact congrArg₂ Summand.mk (Leaf.eq_of_token signs)
    (Operand.eq_of_isPrefix operandFront otherOperandFront)

theorem Exhausts.unique {first second : List Summand} {whole : List Token}
    (exhausts : Exhausts first whole) (other : Exhausts second whole) : first = second := by
  -- If one list ended where the other goes on, a sign would stand behind its last summand.
  induction first generalizing second whole with
  | nil =>
    cases second with
    | nil => rfl
    | cons summand more => exact absurd exhausts (not_exhausts_nil other.head_isPrefix)
  | cons summand more inductionHypothesis =>
    cases second with
    | nil => exact absurd other (not_exhausts_nil exhausts.head_isPrefix)
    | cons next later =>
      obtain rfl := Summand.eq_of_isPrefix exhausts.head_isPrefix other.head_isPrefix
      rw [inductionHypothesis exhausts.tail other.tail]

/-! ### Expressions among the tokens of a list -/

/-- The tokens from index `first` up to index `stop` are those of the expression, and the token at
`stop` is no sign that would go on with it. -/
structure Sum.Spans (sum : Sum) (tokens : List Token) (first stop : Nat) : Prop where
  covered : tokens.extract first stop = sum.tokens
  ended : ∃ token, tokens[stop]? = some token ∧ ¬ IsSign token.kind

variable {sum other : Sum} {tokens : List Token} {first stop beyond : Nat}

theorem Sum.spans_iff :
    sum.Spans tokens first stop ↔
      sum.tokens <+: tokens.drop first ∧ first + sum.tokens.length = stop ∧
        ∃ token, tokens[stop]? = some token ∧ ¬ IsSign token.kind := by
  constructor
  · rintro ⟨covered, token, found, ended⟩
    have inside : stop < tokens.length := (List.getElem?_eq_some_iff.mp found).1
    have length := congrArg List.length covered
    rw [List.extract_eq_take_drop] at covered length
    rw [List.length_take, List.length_drop] at length
    have filled := sum.length_tokens_pos
    refine ⟨covered ▸ List.take_prefix _ _, ?_, token, found, ended⟩
    omega
  · rintro ⟨front, rfl, ended⟩
    refine ⟨?_, ended⟩
    rw [List.extract_eq_take_drop, Nat.add_sub_cancel_left]
    exact (List.prefix_iff_eq_take.mp front).symm

/-- At an index of a list one expression begins at most, and it ends at one index. -/
theorem Sum.Spans.unique (spans : sum.Spans tokens first stop)
    (otherSpans : other.Spans tokens first beyond) : sum = other ∧ stop = beyond := by
  obtain ⟨front, rfl, ended⟩ := Sum.spans_iff.mp spans
  obtain ⟨otherFront, rfl, otherEnded⟩ := Sum.spans_iff.mp otherSpans
  have exhausts (tree : Sum) (treeFront : tree.tokens <+: tokens.drop first)
      (treeEnded : ∃ token, tokens[first + tree.tokens.length]? = some token ∧
        ¬ IsSign token.kind) :
      Exhausts tree.more ((tokens.drop first).drop tree.first.tokens.length) := by
    obtain ⟨token, found, noSign⟩ := treeEnded
    refine ⟨(append_isPrefix_iff.mp treeFront).2, fun next among => ?_⟩
    rw [List.getElem?_drop, List.getElem?_drop, ← List.length_append] at among
    rw [Option.some.inj (among.symm.trans found)]
    exact noSign
  have firsts : sum.first = other.first :=
    Operand.eq_of_isPrefix (append_isPrefix_iff.mp front).1 (append_isPrefix_iff.mp otherFront).1
  have more : sum.more = other.more := by
    refine (exhausts sum front ended).unique ?_
    rw [firsts]
    exact exhausts other otherFront otherEnded
  have same : sum = other := by
    cases sum
    cases other
    cases firsts
    cases more
    rfl
  exact ⟨same, by rw [same]⟩

/-! ### The type is a matter of the operands -/

namespace Operand

/-- The kinds and values of the tokens of an operand. -/
def lexemes (operand : Operand) : List (TokenKind × String) :=
  operand.tokens.map Token.lexeme

/-- The token of an operand that says what it stands for. -/
def last : Operand → Token
  | .named name => name.token
  | .number numeral => numeral.token
  | .negative _ numeral => numeral.token

theorem getLast?_lexemes (operand : Operand) :
    operand.lexemes.getLast? = some operand.last.lexeme := by
  cases operand <;> rfl

theorem hasType_iff_last {scope : Scope} {operand : Operand} {type : ScalarType} :
    operand.HasType scope type ↔
      if operand.last.kind = .identifier then scope operand.last.value type
      else (if operand.last.kind = .integerLiteral then ScalarType.integer else .double) = type := by
  have unnamed (numeral : Numeral) : numeral.token.kind ≠ .identifier := by
    rcases numeral.kind_eq_or with kind | kind <;> rw [kind] <;> decide
  cases operand with
  | named name => exact (Iff.of_eq (if_pos name.kind_eq)).symm
  | number numeral => exact (Iff.of_eq (if_neg (unnamed numeral))).symm
  | negative sign numeral => exact (Iff.of_eq (if_neg (unnamed numeral))).symm

/-- The type of an operand does not depend on where it is written. -/
theorem hasType_congr {scope : Scope} {first second : Operand} {type : ScalarType}
    (same : first.lexemes = second.lexemes) :
    first.HasType scope type ↔ second.HasType scope type := by
  have last : first.last.lexeme = second.last.lexeme := by
    refine Option.some.inj ?_
    rw [← getLast?_lexemes, ← getLast?_lexemes, same]
  obtain ⟨kind, value⟩ := Prod.mk.inj last
  rw [hasType_iff_last, hasType_iff_last, kind, value]

end Operand

/-- The expressions have the same operands, in any order and with any signs between them. -/
def Sum.Rearranges (sum other : Sum) : Prop :=
  (sum.operands.map Operand.lexemes).Perm (other.operands.map Operand.lexemes)

theorem Sum.Rearranges.exists_twin (rearranges : sum.Rearranges other) {operand : Operand}
    (member : operand ∈ sum.operands) :
    ∃ twin ∈ other.operands, twin.lexemes = operand.lexemes :=
  List.mem_map.mp (rearranges.mem_iff.mp (List.mem_map_of_mem member))

theorem Sum.Rearranges.symm (rearranges : sum.Rearranges other) : other.Rearranges sum :=
  List.Perm.symm rearranges

theorem Sum.Rearranges.exists_hasType {scope : Scope} {type : ScalarType}
    (rearranges : sum.Rearranges other)
    (given : ∃ operand ∈ sum.operands, operand.HasType scope type) :
    ∃ operand ∈ other.operands, operand.HasType scope type := by
  obtain ⟨operand, member, has⟩ := given
  obtain ⟨twin, among, same⟩ := rearranges.exists_twin member
  exact ⟨twin, among, (Operand.hasType_congr same).mpr has⟩

theorem Sum.Rearranges.hasType {scope : Scope} {type : ScalarType}
    (rearranges : sum.Rearranges other) (typed : other.HasType scope type) :
    sum.HasType scope type := by
  refine ⟨fun operand member => ?_,
    typed.2.trans ⟨rearranges.symm.exists_hasType, rearranges.exists_hasType⟩⟩
  obtain ⟨twin, among, same⟩ := rearranges.exists_twin member
  obtain ⟨own, has⟩ := typed.1 twin among
  exact ⟨own, (Operand.hasType_congr same).mp has⟩

theorem Sum.Rearranges.hasType_iff {scope : Scope} {type : ScalarType}
    (rearranges : sum.Rearranges other) : sum.HasType scope type ↔ other.HasType scope type :=
  ⟨rearranges.symm.hasType, rearranges.hasType⟩

end Grammar

/-! ### What the checker reads -/

open Grammar

variable {session : Session} {type : ScalarType} {stop : Nat}

/-- The checker reads an expression of the type at the mark, and leaves the mark at the index. -/
def Session.ReadsExpression (session : Session) (type : ScalarType) (stop : Nat) : Prop :=
  ∃ after, Step.Yields Step.expression session type after ∧ after.stream.index = stop

/-- An expression among all tokens of a session is one among the tokens ahead. -/
theorem spans_toList_iff {sum : Sum} :
    sum.Spans session.stream.toList session.stream.index stop ↔
      sum.tokens <+: session.stream.ahead ∧
        (session.pass sum.tokens.length).stream.index = stop ∧
        ¬ IsSign (session.pass sum.tokens.length).current.kind := by
  have ahead : session.stream.toList.drop session.stream.index =
      session.stream.ahead ++ [session.stream.endToken] := by
    unfold TokenStream.toList TokenStream.index
    rw [List.append_assoc, List.drop_left' List.length_reverse]
  have current : session.stream.toList[(session.pass sum.tokens.length).stream.index]? =
      some (session.pass sum.tokens.length).current := by
    rw [← TokenStream.toList_pass session.stream sum.tokens.length]
    exact TokenStream.getElem?_index _
  have index (front : sum.tokens <+: session.stream.ahead) :
      (session.pass sum.tokens.length).stream.index = session.stream.index + sum.tokens.length :=
    TokenStream.index_pass front
  rw [Sum.spans_iff, ahead]
  constructor
  · rintro ⟨front, rfl, token, found, noSign⟩
    -- The token that closes the stream is part of no expression.
    have within : sum.tokens <+: session.stream.ahead := by
      rcases List.prefix_concat_iff.mp front with whole | within
      · exact absurd rfl (sum.noEnd session.stream.endToken (by rw [whole]; simp))
      · exact within
    rw [index within] at current
    refine ⟨within, index within, ?_⟩
    rw [Option.some.inj (current.symm.trans found)]
    exact noSign
  · rintro ⟨front, rfl, noSign⟩
    exact ⟨front.trans (List.prefix_append _ _), (index front).symm, _, current, noSign⟩

theorem readsExpression_iff :
    session.ReadsExpression type stop ↔
      ∃ sum : Sum, sum.Spans session.stream.toList session.stream.index stop ∧
        sum.HasType session.symbols.scope type := by
  constructor
  · rintro ⟨after, run, rfl⟩
    obtain ⟨sum, front, typed, rfl, noSign⟩ := Step.yields_expression_iff.mp run
    exact ⟨sum, spans_toList_iff.mpr ⟨front, rfl, noSign⟩, typed⟩
  · rintro ⟨sum, spans, typed⟩
    obtain ⟨front, index, noSign⟩ := spans_toList_iff.mp spans
    exact ⟨_, Step.yields_expression_iff.mpr ⟨sum, front, typed, rfl, noSign⟩, index⟩

/-- Once it is known which expression stands at the mark, reading it is a matter of its type. -/
theorem readsExpression_iff_of_spans {sum : Sum}
    (spans : sum.Spans session.stream.toList session.stream.index stop) :
    session.ReadsExpression type stop ↔ sum.HasType session.symbols.scope type := by
  rw [readsExpression_iff]
  constructor
  · rintro ⟨other, otherSpans, typed⟩
    obtain ⟨rfl, -⟩ := spans.unique otherSpans
    exact typed
  · exact fun typed => ⟨sum, spans, typed⟩

/-- The checker reads an expression up to an index exactly if one whose variables are declared
stands there and no sign follows it, and its type is double exactly if that of an operand is. One
expression at most stands there, so the index is the only one. And an expression with the same
operands is read in the same way wherever it stands, whatever their order and the signs between
them. -/
theorem readsExpression_exact (session : Session) :
    (∀ type stop, session.ReadsExpression type stop ↔
      ∃ sum : Sum, sum.Spans session.stream.toList session.stream.index stop ∧
        (∀ operand ∈ sum.operands, operand.InScope session.symbols.scope) ∧
        (type = .double ↔
          ∃ operand ∈ sum.operands, operand.HasType session.symbols.scope .double)) ∧
    (∀ (sum other : Sum) stop beyond,
      sum.Spans session.stream.toList session.stream.index stop →
      other.Spans session.stream.toList session.stream.index beyond →
      sum = other ∧ stop = beyond) ∧
    ∀ (elsewhere : Session) (sum other : Sum) stop beyond,
      elsewhere.symbols = session.symbols →
      sum.Spans session.stream.toList session.stream.index stop →
      other.Spans elsewhere.stream.toList elsewhere.stream.index beyond →
      sum.Rearranges other →
      ∀ type, session.ReadsExpression type stop ↔ elsewhere.ReadsExpression type beyond := by
  refine ⟨fun type stop => readsExpression_iff, fun sum other stop beyond => Sum.Spans.unique, ?_⟩
  intro elsewhere sum other stop beyond symbols spans otherSpans rearranges type
  rw [readsExpression_iff_of_spans spans, readsExpression_iff_of_spans otherSpans, symbols]
  exact rearranges.hasType_iff

/-- A session behind `:=` that faces the tokens, with `x` declared as an integer. -/
def Session.facing (tokens : List Token) : Session :=
  ⟨⟨[.brief .colonEquals ":=" 1 2], tokens, "EOF", Span.empty ⟨2, 1, "shell"⟩⟩, fun _ => none,
    ⟨[("x", .integer)]⟩, .scanning, ⟨1, 1, "shell"⟩⟩

/-- The expression `x - -2.5 + 1`. -/
def signedSum : Sum :=
  ⟨.named ⟨.brief .identifier "x" 1 4, by decide⟩,
    [⟨⟨.brief .dash "-" 1 5, by decide⟩, .negative ⟨.brief .dash "-" 1 6, by decide⟩
        ⟨⟨.doubleLiteral, "2.5", ⟨⟨1, 7, "shell"⟩, ⟨1, 10, "shell"⟩⟩⟩, by decide⟩⟩,
      ⟨⟨.brief .plus "+" 1 10, by decide⟩, .number ⟨.brief .integerLiteral "1" 1 11, by decide⟩⟩]⟩

/-- The expression `-2.5 - 1 - x`. -/
def turnedSum : Sum :=
  ⟨.negative ⟨.brief .dash "-" 1 4, by decide⟩
      ⟨⟨.doubleLiteral, "2.5", ⟨⟨1, 5, "shell"⟩, ⟨1, 8, "shell"⟩⟩⟩, by decide⟩,
    [⟨⟨.brief .dash "-" 1 8, by decide⟩, .number ⟨.brief .integerLiteral "1" 1 9, by decide⟩⟩,
      ⟨⟨.brief .dash "-" 1 10, by decide⟩, .named ⟨.brief .identifier "x" 1 11, by decide⟩⟩]⟩

/-- Both expressions are read up to what follows them, as doubles. -/
theorem readsExpression_turnedSum :
    let session := Session.facing (signedSum.tokens ++ [.brief .semicolon ";" 1 12])
    let elsewhere := Session.facing (turnedSum.tokens ++ [.brief .closeParen ")" 1 12])
    signedSum.Spans session.stream.toList session.stream.index 7 ∧
      turnedSum.Spans elsewhere.stream.toList elsewhere.stream.index 7 ∧
      signedSum.Rearranges turnedSum ∧
      session.ReadsExpression .double 7 ∧ elsewhere.ReadsExpression .double 7 := by
  intro session elsewhere
  have spans : signedSum.Spans session.stream.toList session.stream.index 7 :=
    ⟨rfl, _, rfl, by simp [IsSign, Token.brief]⟩
  have turned : turnedSum.Spans elsewhere.stream.toList elsewhere.stream.index 7 :=
    ⟨rfl, _, rfl, by simp [IsSign, Token.brief]⟩
  have rearranges : signedSum.Rearranges turnedSum := by
    unfold Sum.Rearranges
    decide
  obtain ⟨reads, -, moved⟩ := readsExpression_exact session
  have double : session.ReadsExpression .double 7 := by
    refine (reads .double 7).mpr ⟨signedSum, spans, ?_, iff_of_true rfl ?_⟩
    · simp only [signedSum, Sum.operands, List.map_cons, List.map_nil, List.forall_mem_cons]
      exact ⟨⟨.integer, rfl⟩, ⟨.double, rfl⟩, ⟨.integer, rfl⟩, List.forall_mem_nil _⟩
    · exact ⟨_, .tail _ (.head _), rfl⟩
  exact ⟨spans, turned, rearranges, double,
    (moved elsewhere signedSum turnedSum 7 7 rfl spans turned rearranges .double).mp double⟩

end HLang
