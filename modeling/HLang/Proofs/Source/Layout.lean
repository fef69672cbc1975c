/-
This file proves that a program may be laid out at will. Write down any lexemes of the language,
with any whitespace in front of them, behind them and between them, and none between two that
need no separator: the tokens of the cleaned text are those lexemes, in their order.
-/

import HLang.Proofs.Source.Lossless

namespace HLang

/-! ### Lexemes of the language -/

/-- How the lexemes of a kind are written. -/
inductive Spelled : TokenKind → List Char → Prop where
  | fixed (kind : TokenKind) (spelling : String) (spelled : kind.spelling? = some spelling) :
      Spelled kind spelling.toList
  | identifier (first : Char) (more : List Char) (letter : first.isAlpha = true)
      (word : ∀ c ∈ more, c.isAlphanum = true)
      (free : ∀ kind : TokenKind, kind.isReserved = true →
        kind.spelling? ≠ some (String.ofList (first :: more))) :
      Spelled .identifier (first :: more)
  | integer (number : List Char) (filled : number ≠ [])
      (digits : ∀ c ∈ number, c.isDigit = true) : Spelled .integerLiteral number
  | double (number fraction : List Char) (filled : number ≠ [])
      (digits : ∀ c ∈ number, c.isDigit = true) (fractionFilled : fraction ≠ [])
      (fractionDigits : ∀ c ∈ fraction, c.isDigit = true) :
      Spelled .doubleLiteral (number ++ '.' :: fraction)
  | string (inside : List Char) (unquoted : '"' ∉ inside) (sameLine : '\n' ∉ inside)
      (noReturn : '\r' ∉ inside) : Spelled .stringLiteral ('"' :: (inside ++ ['"']))

/-- Read by itself, the text is one lexeme of the kind, and it holds no quote. -/
def ReadsAs (kind : TokenKind) : List Char → Prop
  | [] => False
  | first :: more => isBlank first = false ∧ '"' ∉ first :: more ∧
      firstPiece first more = ⟨some kind, first, more⟩

instance (kind : TokenKind) : (text : List Char) → Decidable (ReadsAs kind text)
  | [] => inferInstanceAs (Decidable False)
  | first :: more => inferInstanceAs (Decidable (isBlank first = false ∧ '"' ∉ first :: more ∧
      firstPiece first more = ⟨some kind, first, more⟩))

theorem readsAs_spelling {kind : TokenKind} {spelling : String}
    (spelled : kind.spelling? = some spelling) : ReadsAs kind spelling.toList := by
  cases kind <;> cases spelled <;> decide

/-- The characters of words and numbers are no quotes. -/
theorem quote_not_mem_of_isNumberChar {text : List Char}
    (numberChars : ∀ c ∈ text, isNumberChar c = true) : '"' ∉ text :=
  fun member => (solid_of_isNumberChar (numberChars '"' member)).2 rfl

theorem wordKind_eq_identifier {word : List Char}
    (free : ∀ kind : TokenKind, kind.isReserved = true →
      kind.spelling? ≠ some (String.ofList word)) : wordKind word = .identifier := by
  have other (kind : TokenKind) (reserved : kind.isReserved = true) (spelling : String)
      (spelled : kind.spelling? = some spelling) : word ≠ spelling.toList := by
    rintro rfl
    exact free kind reserved (spelled.trans (congrArg some String.ofList_toList.symm))
  unfold wordKind
  rw [if_neg (other .integerWord rfl "integer" rfl), if_neg (other .doubleWord rfl "double" rfl),
    if_neg (other .ifWord rfl "If" rfl), if_neg (other .outputWord rfl "output" rfl)]

theorem readsAs_identifier {first : Char} {more : List Char} (letter : first.isAlpha = true)
    (word : ∀ c ∈ more, c.isAlphanum = true)
    (free : ∀ kind : TokenKind, kind.isReserved = true →
      kind.spelling? ≠ some (String.ofList (first :: more))) :
    ReadsAs .identifier (first :: more) := by
  have numberChars : ∀ c ∈ first :: more, isNumberChar c = true :=
    List.forall_mem_cons.mpr ⟨isNumberChar_of_isAlpha letter,
      fun c member => isNumberChar_of_isAlphanum (word c member)⟩
  refine ⟨isBlank_of_isNumberChar (isNumberChar_of_isAlpha letter),
    quote_not_mem_of_isNumberChar numberChars, ?_⟩
  rw [firstPiece_letter letter, takeWhile_eq_self word, wordKind_eq_identifier free]

theorem readsAs_number {number : List Char} (filled : number ≠ [])
    (digits : ∀ c ∈ number, c.isDigit = true) {rest : List Char}
    (numberChars : ∀ c ∈ rest, isNumberChar c = true) :
    ReadsAs (numberKind (number ++ rest)) (number ++ rest) := by
  cases number with
  | nil => exact absurd rfl filled
  | cons first more =>
    obtain ⟨digit, moreDigits⟩ := List.forall_mem_cons.mp digits
    have run : ∀ c ∈ more ++ rest, isNumberChar c = true := fun c member =>
      (List.mem_append.mp member).elim (fun among => isNumberChar_of_isDigit (moreDigits c among))
        (numberChars c)
    refine ⟨isBlank_of_isNumberChar (isNumberChar_of_isDigit digit),
      quote_not_mem_of_isNumberChar (List.forall_mem_cons.mpr
        ⟨isNumberChar_of_isDigit digit, run⟩), ?_⟩
    show firstPiece first (more ++ rest) = _
    rw [firstPiece_digit digit, takeWhile_eq_self run]
    rfl

theorem numberKind_integer {number : List Char} (digits : ∀ c ∈ number, c.isDigit = true) :
    numberKind (number ++ []) = .integerLiteral := by
  unfold numberKind
  rw [List.dropWhile_append_of_pos digits]
  rfl

theorem numberKind_double {number fraction : List Char}
    (digits : ∀ c ∈ number, c.isDigit = true) (fractionFilled : fraction ≠ [])
    (fractionDigits : ∀ c ∈ fraction, c.isDigit = true) :
    numberKind (number ++ '.' :: fraction) = .doubleLiteral := by
  unfold numberKind
  rw [List.dropWhile_append_of_pos digits, List.dropWhile_cons_of_neg (by decide)]
  cases fraction with
  | nil => exact absurd rfl fractionFilled
  | cons digit fraction => exact if_pos (List.all_eq_true.mpr fractionDigits)

/-- A lexeme of the language read by itself is one lexeme, of its kind; but string literals
start with a quote. -/
theorem Spelled.readsAs_or {kind : TokenKind} {text : List Char} (spelled : Spelled kind text) :
    ReadsAs kind text ∨ ∃ inside, kind = .stringLiteral ∧ text = '"' :: (inside ++ ['"']) ∧
      (∀ c ∈ inside, isStringChar c = true) ∧ '\r' ∉ inside := by
  cases spelled with
  | fixed kind spelling spelled => exact Or.inl (readsAs_spelling spelled)
  | identifier first more letter word free => exact Or.inl (readsAs_identifier letter word free)
  | integer number filled digits =>
    have reads := readsAs_number filled digits fun c member => absurd member List.not_mem_nil
    rw [numberKind_integer digits, List.append_nil] at reads
    exact Or.inl reads
  | double number fraction filled digits fractionFilled fractionDigits =>
    have reads := readsAs_number filled digits (List.forall_mem_cons.mpr
      ⟨(rfl : isNumberChar '.' = true), fun c member => isNumberChar_of_isDigit
        (fractionDigits c member)⟩)
    rw [numberKind_double digits fractionFilled fractionDigits] at reads
    exact Or.inl reads
  | string inside unquoted sameLine noReturn =>
    exact Or.inr ⟨inside, rfl, rfl, isStringChar_of_not_mem unquoted sameLine, noReturn⟩

theorem Spelled.ne_nil {kind : TokenKind} {text : List Char} (spelled : Spelled kind text) :
    text ≠ [] := by
  rcases spelled.readsAs_or with reads | ⟨inside, -, rfl, -⟩
  · rintro rfl
    exact reads
  · exact List.cons_ne_nil _ _

/-! ### One lexeme in a text -/

/-- The lexemes of a text that starts with a lexeme of the language, if what follows needs no
separator from it. -/
theorem Spelled.lexemes_append {kind : TokenKind} {text : List Char} (spelled : Spelled kind text)
    {rest : List Char} (apart : Apart (text.getLast spelled.ne_nil) rest) :
    lexemes (text ++ rest) = (kind, String.ofList text) :: lexemes rest := by
  rcases spelled.readsAs_or with reads | ⟨inside, rfl, rfl, plain, noReturn⟩
  · cases text with
    | nil => exact reads.elim
    | cons first more =>
      obtain ⟨solid, unquoted, alone⟩ := reads
      have cut : (firstPiece first (more ++ [])).more = more := by rw [List.append_nil, alone]
      have front := firstPiece_append_congr solid (List.ne_of_not_mem_cons unquoted).symm cut
        (Or.inr (List.getLast_eq_getLastD _ ▸ apart))
      rw [List.append_nil, alone] at front
      exact lexemes_of_firstPiece front
  · rw [List.cons_append, List.append_assoc]
    exact lexemes_quote_closed plain rest

/-- A lexeme of the language leaves no quote open, and holds no carriage return. -/
theorem Spelled.keepsQuotes_append {kind : TokenKind} {text : List Char}
    (spelled : Spelled kind text) {rest : List Char} (keeps : KeepsQuotes false rest) :
    KeepsQuotes false (text ++ rest) := by
  rcases spelled.readsAs_or with reads | ⟨inside, rfl, rfl, plain, noReturn⟩
  · cases text with
    | nil => exact reads.elim
    | cons first more => exact (keepsQuotes_unquoted_append_iff reads.2.1 rest).mpr keeps
  · refine ⟨fun within => absurd within (by decide), ?_⟩
    show KeepsQuotes true (inside ++ ['"'] ++ rest)
    rw [List.append_assoc]
    exact (keepsQuotes_literal_iff plain rest).mpr ⟨noReturn, keeps⟩

/-! ### Layouts -/

/-- A lexeme of the language. -/
structure Lexeme where
  kind : TokenKind
  text : List Char
  spelled : Spelled kind text

namespace Lexeme

def first (lexeme : Lexeme) : Char :=
  lexeme.text.head lexeme.spelled.ne_nil

def last (lexeme : Lexeme) : Char :=
  lexeme.text.getLast lexeme.spelled.ne_nil

end Lexeme

/-- A lexeme with the whitespace written behind it. -/
structure Spaced where
  lexeme : Lexeme
  gap : List Char
  blank : ∀ c ∈ gap, isBlank c = true

def Spaced.text (item : Spaced) : List Char :=
  item.lexeme.text ++ item.gap

/-- What the token of a lexeme has to say. -/
def Spaced.read (item : Spaced) : TokenKind × String :=
  (item.lexeme.kind, String.ofList item.lexeme.text)

/-- No two lexemes that need a separator touch each other. -/
def Separated : List Spaced → Prop
  | item :: next :: more =>
    (item.gap = [] → needsSeparator item.lexeme.last next.lexeme.first = false) ∧
      Separated (next :: more)
  | _ => True

/-- What follows a lexeme in a layout needs no separator from it. -/
theorem apart_of_separated {item : Spaced} {more : List Spaced}
    (separated : Separated (item :: more)) :
    Apart item.lexeme.last (item.gap ++ more.flatMap Spaced.text) := by
  cases shape : item.gap with
  | cons c gap =>
    refine apart_of_blank (fun next member => ?_) item.lexeme.last
    obtain rfl := Option.some.inj member
    exact item.blank c (shape ▸ List.mem_cons_self)
  | nil =>
    cases more with
    | nil => exact fun next member => absurd member (Option.not_mem_none next)
    | cons next more =>
      intro first member
      rw [List.nil_append, List.flatMap_cons, Spaced.text, List.append_assoc, List.head?_append,
        List.head?_eq_some_head next.lexeme.spelled.ne_nil] at member
      obtain rfl := Option.some.inj member
      exact separated.1 shape

theorem lexemes_flatMap_text {items : List Spaced} (separated : Separated items) :
    lexemes (items.flatMap Spaced.text) = items.map Spaced.read := by
  induction items with
  | nil => exact lexemes_nil
  | cons item more inductionHypothesis =>
    have later : Separated more := by
      cases more with
      | nil => trivial
      | cons next more => exact separated.2
    rw [List.flatMap_cons, Spaced.text, List.append_assoc,
      item.lexeme.spelled.lexemes_append (apart_of_separated separated),
      lexemes_blanks item.blank, inductionHypothesis later]
    rfl

theorem keepsQuotes_flatMap_text (items : List Spaced) :
    KeepsQuotes false (items.flatMap Spaced.text) := by
  induction items with
  | nil => trivial
  | cons item more inductionHypothesis =>
    rw [List.flatMap_cons, Spaced.text, List.append_assoc]
    exact item.lexeme.spelled.keepsQuotes_append
      ((keepsQuotes_unquoted_append_iff (quote_not_mem_of_blank item.blank) _).mpr
        inductionHypothesis)

/-- However lexemes are laid out, the tokens of the cleaned text are these lexemes in their
order, and one for the end of input. -/
theorem map_lexeme_tokens_layout (lead : List Char) (items : List Spaced) (file : String)
    (blank : ∀ c ∈ lead, isBlank c = true) (separated : Separated items) :
    ((CleanSource.ofSource (String.ofList (lead ++ items.flatMap Spaced.text))).tokens file).map
        Token.lexeme =
      items.map Spaced.read ++ [(.endOfInput, "EOF")] := by
  have keeps : KeepsQuotes false (String.ofList (lead ++ items.flatMap Spaced.text)).toList := by
    rw [String.toList_ofList]
    exact (keepsQuotes_unquoted_append_iff (quote_not_mem_of_blank blank) _).mpr
      (keepsQuotes_flatMap_text items)
  rw [map_lexeme_tokens, lexemes_ofSource keeps, String.toList_ofList, lexemes_blanks blank,
    lexemes_flatMap_text separated]

/-- The lexemes `x := 12.50 < "a  b" <=` on three lines, some of them touching, with blanks of
several kinds between the others. -/
def mixedLayout : List Spaced :=
  [⟨⟨_, _, .identifier 'x' [] rfl (List.all_eq_true.mp rfl) fun kind => by cases kind <;> decide⟩,
      [], List.all_eq_true.mp rfl⟩,
    ⟨⟨_, _, .fixed .colonEquals ":=" rfl⟩, ['\r'], List.all_eq_true.mp rfl⟩,
    ⟨⟨_, _, .double ['1', '2'] ['5', '0'] (by decide) (List.all_eq_true.mp rfl) (by decide)
      (List.all_eq_true.mp rfl)⟩, [], List.all_eq_true.mp rfl⟩,
    ⟨⟨_, _, .fixed .less "<" rfl⟩, [], List.all_eq_true.mp rfl⟩,
    ⟨⟨_, _, .string ['a', ' ', ' ', 'b'] (by decide) (by decide) (by decide)⟩, ['\n', '\u2003'],
      List.all_eq_true.mp rfl⟩,
    ⟨⟨_, _, .fixed .lessEquals "<=" rfl⟩, ['\n'], List.all_eq_true.mp rfl⟩]

theorem map_lexeme_tokens_mixedLayout :
    (∀ c ∈ ['\u00a0', '\t'], isBlank c = true) ∧ Separated mixedLayout ∧
      ((CleanSource.ofSource (String.ofList (['\u00a0', '\t'] ++
        mixedLayout.flatMap Spaced.text))).tokens "shell").map Token.lexeme =
      [(.identifier, "x"), (.colonEquals, ":="), (.doubleLiteral, "12.50"), (.less, "<"),
        (.stringLiteral, "\"a  b\""), (.lessEquals, "<="), (.endOfInput, "EOF")] := by
  have blank : ∀ c ∈ ['\u00a0', '\t'], isBlank c = true := List.all_eq_true.mp rfl
  have separated : Separated mixedLayout := by
    simp only [mixedLayout, Separated]
    decide
  have read : mixedLayout.map Spaced.read ++ [(.endOfInput, "EOF")] =
      [(.identifier, "x"), (.colonEquals, ":="), (.doubleLiteral, "12.50"), (.less, "<"),
        (.stringLiteral, "\"a  b\""), (.lessEquals, "<="), (.endOfInput, "EOF")] := by
    decide
  rw [← read]
  exact ⟨blank, separated, map_lexeme_tokens_layout _ mixedLayout "shell" blank separated⟩

end HLang
