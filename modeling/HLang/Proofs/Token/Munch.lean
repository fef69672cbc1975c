/-
This file compares the scanner with one that always takes as much as it can. There are four classes
of lexemes: numbers, words, string literals that are closed on their line, and the symbols of the
language. At each place where no whitespace stands, the lexeme to take is the longest one at the
front of the text, of whatever class, and a single character where there is none.

The scanner looks at one character, at most two, to choose a class and then stays with it. That
takes the longest lexeme nevertheless, because the first character leaves no choice of class, and
within each class a lexeme ends at the first character that cannot go on with it. So the values of
its tokens are the only ones that can be taken in this way, and their kinds depend on nothing else.
-/

import HLang.Proofs.Source.Layout
import HLang.Proofs.Token.Spans

namespace HLang

/-! ### Classes of lexemes -/

/-- The text is a run of digits, letters and dots that starts with a digit, a word, a string literal
on one line, or one of the fourteen operators and delimiters. -/
inductive IsLexeme : List Char → Prop where
  | number (first : Char) (more : List Char) (digit : first.isDigit = true)
      (run : ∀ c ∈ more, isNumberChar c = true) : IsLexeme (first :: more)
  | word (first : Char) (more : List Char) (letter : first.isAlpha = true)
      (run : ∀ c ∈ more, c.isAlphanum = true) : IsLexeme (first :: more)
  | string (inside : List Char) (plain : ∀ c ∈ inside, isStringChar c = true) :
      IsLexeme ('"' :: (inside ++ ['"']))
  | symbol (kind : TokenKind) (spelling : String) (symbol : kind.isSymbol = true)
      (spelled : kind.spelling? = some spelling) : IsLexeme spelling.toList

/-- What is to be taken at the front of the text: the longest lexeme there, or a single character if
there is none. -/
inductive Munched (text : List Char) : List Char → Prop where
  | longest (value : List Char) (front : value <+: text) (lexeme : IsLexeme value)
      (longest : ∀ other, other <+: text → IsLexeme other → other.length ≤ value.length) :
      Munched text value
  | single (c : Char) (front : [c] <+: text)
      (none : ∀ other, other <+: text → ¬ IsLexeme other) : Munched text [c]

/-- The values are taken from the text one after the other, with nothing but whitespace in front of
each of them and behind the last. -/
inductive Munches : List Char → List (List Char) → Prop where
  | ended (gap : List Char) (blank : ∀ c ∈ gap, isBlank c = true) : Munches gap []
  | taken (gap value rest : List Char) (values : List (List Char))
      (blank : ∀ c ∈ gap, isBlank c = true) (solid : ∀ c ∈ value.head?, isBlank c = false)
      (munched : Munched (value ++ rest) value) (later : Munches rest values) :
      Munches (gap ++ (value ++ rest)) (value :: values)

/-- The kind of a lexeme, by its value alone. -/
inductive HasKind : List Char → TokenKind → Prop where
  | spelled (value : List Char) (kind : TokenKind) (spelled : Spelled kind value) :
      HasKind value kind
  | string (inside : List Char) (plain : ∀ c ∈ inside, isStringChar c = true) :
      HasKind ('"' :: (inside ++ ['"'])) .stringLiteral
  | malformed (first : Char) (more : List Char) (digit : first.isDigit = true)
      (run : ∀ c ∈ more, isNumberChar c = true)
      (noInteger : ¬ Spelled .integerLiteral (first :: more))
      (noDouble : ¬ Spelled .doubleLiteral (first :: more)) : HasKind (first :: more) .unknown
  | single (c : Char) (solid : isBlank c = false) (none : ¬ IsLexeme [c]) : HasKind [c] .unknown

/-! ### Symbols -/

theorem spelling_of_singleKind {c : Char} {kind : TokenKind} (single : singleKind c = some kind) :
    kind.isSymbol = true ∧ kind.spelling? = some (String.ofList [c]) := by
  unfold singleKind at single
  split at single <;> cases single <;> exact ⟨rfl, rfl⟩

theorem spelling_of_pairKind {first second : Char} {kind : TokenKind}
    (pair : pairKind first second = some kind) :
    kind.isSymbol = true ∧ kind.spelling? = some (String.ofList [first, second]) := by
  unfold pairKind at pair
  split at pair <;> cases pair <;> exact ⟨rfl, rfl⟩

/-- A symbol is one that a single character forms, or one that two characters form. -/
theorem symbol_cases {kind : TokenKind} {spelling : String} (symbol : kind.isSymbol = true)
    (spelled : kind.spelling? = some spelling) :
    (∃ c, spelling.toList = [c] ∧ singleKind c = some kind) ∨
      ∃ first second, spelling.toList = [first, second] ∧ pairKind first second = some kind := by
  cases kind <;> cases spelled <;>
    first
    | exact Or.inl ⟨_, rfl, rfl⟩
    | exact Or.inr ⟨_, _, rfl, rfl⟩
    | exact absurd symbol (by decide)

/-- The symbols of two characters start with characters of their own. -/
theorem plain_of_pairKind {first second : Char} {kind : TokenKind}
    (pair : pairKind first second = some kind) :
    isBlank first = false ∧ ¬ first.isDigit = true ∧ ¬ first.isAlpha = true ∧ first ≠ '"' := by
  unfold pairKind at pair
  split at pair <;> first | decide | cases pair

theorem isLexeme_of_singleKind {c : Char} {kind : TokenKind} (single : singleKind c = some kind) :
    IsLexeme [c] := by
  obtain ⟨symbol, spelled⟩ := spelling_of_singleKind single
  have value : (String.ofList [c]).toList = [c] := String.toList_ofList
  exact value ▸ .symbol kind _ symbol spelled

theorem isLexeme_of_pairKind {first second : Char} {kind : TokenKind}
    (pair : pairKind first second = some kind) : IsLexeme [first, second] := by
  obtain ⟨symbol, spelled⟩ := spelling_of_pairKind pair
  have value : (String.ofList [first, second]).toList = [first, second] := String.toList_ofList
  exact value ▸ .symbol kind _ symbol spelled

/-! ### Lexemes -/

theorem IsLexeme.ne_nil {text : List Char} (lexeme : IsLexeme text) : text ≠ [] := by
  cases lexeme with
  | number first more digit run => exact List.cons_ne_nil first more
  | word first more letter run => exact List.cons_ne_nil first more
  | string inside plain => exact List.cons_ne_nil _ _
  | symbol kind spelling symbol spelled =>
    rcases symbol_cases symbol spelled with ⟨c, shape, -⟩ | ⟨c, second, shape, -⟩
    · exact shape ▸ List.cons_ne_nil c []
    · exact shape ▸ List.cons_ne_nil c [second]

theorem not_isLexeme_singleton {c : Char} (noDigit : ¬ c.isDigit = true)
    (noLetter : ¬ c.isAlpha = true) (noSymbol : singleKind c = none) : ¬ IsLexeme [c] := by
  intro lexeme
  generalize shape : [c] = text at lexeme
  cases lexeme with
  | number first more digit run => exact noDigit ((List.cons.inj shape).1 ▸ digit)
  | word first more letter run => exact noLetter ((List.cons.inj shape).1 ▸ letter)
  | string inside plain =>
    exact absurd (List.cons.inj shape).2.symm (List.append_ne_nil_of_right_ne_nil _ (by decide))
  | symbol kind spelling symbol spelled =>
    rcases symbol_cases symbol spelled with ⟨first, other, single⟩ | ⟨first, second, other, -⟩
    · obtain ⟨rfl, -⟩ := List.cons.inj (shape.trans other)
      rw [noSymbol] at single
      cases single
    · cases shape.trans other

/-! ### Kinds -/

theorem numberKind_cases {first : Char} (more : List Char) (digit : first.isDigit = true) :
    Spelled .integerLiteral (first :: more) ∧ numberKind (first :: more) = .integerLiteral ∨
      Spelled .doubleLiteral (first :: more) ∧ numberKind (first :: more) = .doubleLiteral ∨
      numberKind (first :: more) = .unknown := by
  have whole : (first :: more).takeWhile Char.isDigit ++ (first :: more).dropWhile Char.isDigit =
      first :: more := List.takeWhile_append_dropWhile
  have digits : ∀ c ∈ (first :: more).takeWhile Char.isDigit, c.isDigit = true :=
    List.all_eq_true.mp List.all_takeWhile
  have filled : (first :: more).takeWhile Char.isDigit ≠ [] := by
    rw [List.takeWhile_cons_of_pos digit]
    exact List.cons_ne_nil _ _
  generalize (first :: more).takeWhile Char.isDigit = number at whole digits filled
  unfold numberKind
  generalize (first :: more).dropWhile Char.isDigit = rest at whole ⊢
  rw [← whole]
  cases rest with
  | nil =>
    rw [List.append_nil]
    exact Or.inl ⟨.integer number filled digits, rfl⟩
  | cons point fraction =>
    by_cases double : (point = '.' && !fraction.isEmpty && fraction.all Char.isDigit) = true
    · refine Or.inr (Or.inl ⟨?_, if_pos double⟩)
      simp only [Bool.and_eq_true, decide_eq_true_eq, Bool.not_eq_true', List.isEmpty_eq_false_iff,
        List.all_eq_true] at double
      obtain ⟨⟨rfl, fractionFilled⟩, fractionDigits⟩ := double
      exact .double number fraction filled digits fractionFilled fractionDigits
    · exact Or.inr (Or.inr (if_neg double))

theorem spelled_wordKind {first : Char} {more : List Char} (letter : first.isAlpha = true)
    (run : ∀ c ∈ more, c.isAlphanum = true) :
    Spelled (wordKind (first :: more)) (first :: more) := by
  have reserved (kind : TokenKind) (spelling : String) (spelled : kind.spelling? = some spelling)
      (same : first :: more = spelling.toList) : Spelled kind (first :: more) :=
    same ▸ .fixed kind spelling spelled
  unfold wordKind
  by_cases isInteger : first :: more = "integer".toList
  · rw [if_pos isInteger]
    exact reserved .integerWord "integer" rfl isInteger
  by_cases isDouble : first :: more = "double".toList
  · rw [if_neg isInteger, if_pos isDouble]
    exact reserved .doubleWord "double" rfl isDouble
  by_cases isIf : first :: more = "If".toList
  · rw [if_neg isInteger, if_neg isDouble, if_pos isIf]
    exact reserved .ifWord "If" rfl isIf
  by_cases isOutput : first :: more = "output".toList
  · rw [if_neg isInteger, if_neg isDouble, if_neg isIf, if_pos isOutput]
    exact reserved .outputWord "output" rfl isOutput
  rw [if_neg isInteger, if_neg isDouble, if_neg isIf, if_neg isOutput]
  refine .identifier first more letter run fun kind isReserved spelled => ?_
  have same (spelling : String) (shape : some spelling = some (String.ofList (first :: more))) :
      first :: more = spelling.toList := by
    rw [Option.some.inj shape, String.toList_ofList]
  cases kind with
  | integerWord => exact isInteger (same "integer" spelled)
  | doubleWord => exact isDouble (same "double" spelled)
  | ifWord => exact isIf (same "If" spelled)
  | outputWord => exact isOutput (same "output" spelled)
  | _ => exact absurd isReserved (by decide)

/-- Read by itself, a value that has a kind is one lexeme of that kind. -/
theorem HasKind.firstPiece_eq {value : List Char} {kind : TokenKind}
    (hasKind : HasKind value kind) :
    ∃ first more, value = first :: more ∧ firstPiece first more = ⟨some kind, first, more⟩ := by
  cases hasKind with
  | spelled value kind spelled =>
    rcases spelled.readsAs_or with reads | ⟨inside, rfl, rfl, plain, -⟩
    · cases value with
      | nil => exact reads.elim
      | cons first more => exact ⟨first, more, rfl, reads.2.2⟩
    · exact ⟨'"', inside ++ ['"'], rfl, stringPiece_closed plain []⟩
  | string inside plain => exact ⟨'"', inside ++ ['"'], rfl, stringPiece_closed plain []⟩
  | malformed first more digit run noInteger noDouble =>
    refine ⟨first, more, rfl, ?_⟩
    rw [firstPiece_digit digit, takeWhile_eq_self run]
    rcases numberKind_cases more digit with ⟨integer, -⟩ | ⟨double, -⟩ | unknown
    · exact absurd integer noInteger
    · exact absurd double noDouble
    · rw [unknown]
  | single c solid none =>
    refine ⟨c, [], rfl, ?_⟩
    have empty (accepts : Char → Bool) : ∀ c ∈ [], accepts c = true :=
      fun c member => absurd member List.not_mem_nil
    have noDigit : ¬ c.isDigit = true := fun digit => none (.number c [] digit (empty _))
    have noLetter : ¬ c.isAlpha = true := fun letter => none (.word c [] letter (empty _))
    by_cases quote : c = '"'
    · subst quote
      rfl
    · have noSymbol : singleKind c = Option.none := Option.eq_none_iff_forall_ne_some.mpr
        fun kind single => none (isLexeme_of_singleKind single)
      have unpaired : ∀ next ∈ ([] : List Char).head?, pairKind c next = Option.none :=
        fun next isNext => absurd isNext (Option.not_mem_none next)
      rw [firstPiece_symbol solid noDigit noLetter quote, symbolPiece_of_single unpaired, noSymbol]
      rfl

/-- A value has one kind only. -/
theorem HasKind.unique {value : List Char} {kind other : TokenKind} (hasKind : HasKind value kind)
    (hasOther : HasKind value other) : kind = other := by
  obtain ⟨first, more, rfl, piece⟩ := hasKind.firstPiece_eq
  obtain ⟨_, _, shape, pieceOther⟩ := hasOther.firstPiece_eq
  obtain ⟨rfl, rfl⟩ := List.cons.inj shape
  exact Option.some.inj (congrArg Piece.kind (piece.symm.trans pieceOther))

theorem HasKind.ne_endOfInput {value : List Char} {kind : TokenKind}
    (hasKind : HasKind value kind) : kind ≠ .endOfInput := by
  rintro rfl
  cases hasKind with
  | spelled value kind spelled =>
    cases spelled with
    | fixed kind spelling spelled => cases spelled

theorem hasKind_numberKind {first : Char} {more : List Char} (digit : first.isDigit = true)
    (run : ∀ c ∈ more, isNumberChar c = true) :
    HasKind (first :: more) (numberKind (first :: more)) := by
  have only {kind : TokenKind} (spelled : Spelled kind (first :: more)) :
      numberKind (first :: more) = kind := by
    obtain ⟨_, _, shape, piece⟩ := (HasKind.spelled _ _ spelled).firstPiece_eq
    obtain ⟨rfl, rfl⟩ := List.cons.inj shape
    rw [firstPiece_digit digit, takeWhile_eq_self run] at piece
    exact Option.some.inj (congrArg Piece.kind piece)
  rcases numberKind_cases more digit with ⟨integer, kind⟩ | ⟨double, kind⟩ | unknown
  · rw [kind]
    exact .spelled _ _ integer
  · rw [kind]
    exact .spelled _ _ double
  · rw [unknown]
    refine .malformed first more digit run (fun spelled => ?_) fun spelled => ?_
    · exact absurd (unknown.symm.trans (only spelled)) (by decide)
    · exact absurd (unknown.symm.trans (only spelled)) (by decide)

theorem hasKind_spelling {kind : TokenKind} {value : List Char}
    (spelled : kind.spelling? = some (String.ofList value)) : HasKind value kind := by
  have same : (String.ofList value).toList = value := String.toList_ofList
  exact .spelled value kind (same ▸ .fixed kind _ spelled)

theorem hasKind_singleKind {c : Char} (solid : isBlank c = false) (noDigit : ¬ c.isDigit = true)
    (noLetter : ¬ c.isAlpha = true) : HasKind [c] ((singleKind c).getD .unknown) := by
  cases single : singleKind c with
  | some kind => exact hasKind_spelling (spelling_of_singleKind single).2
  | none => exact .single c solid (not_isLexeme_singleton noDigit noLetter single)

/-! ### What the scanner takes -/

/-- The scanner takes a lexeme or a single character, and gives it its kind. -/
theorem firstPiece_of_solid {first : Char} (solid : isBlank first = false) (rest : List Char) :
    ∃ kind, (firstPiece first rest).kind = some kind ∧
      HasKind (first :: (firstPiece first rest).more) kind ∧
      (IsLexeme (first :: (firstPiece first rest).more) ∨ (firstPiece first rest).more = []) := by
  by_cases digit : first.isDigit = true
  · have run : ∀ c ∈ rest.takeWhile isNumberChar, isNumberChar c = true :=
      List.all_eq_true.mp List.all_takeWhile
    rw [firstPiece_digit digit]
    exact ⟨_, rfl, hasKind_numberKind digit run, Or.inl (.number first _ digit run)⟩
  by_cases letter : first.isAlpha = true
  · have run : ∀ c ∈ rest.takeWhile Char.isAlphanum, c.isAlphanum = true :=
      List.all_eq_true.mp List.all_takeWhile
    rw [firstPiece_letter letter]
    exact ⟨_, rfl, .spelled _ _ (spelled_wordKind letter run), Or.inl (.word first _ letter run)⟩
  by_cases quote : first = '"'
  · subst quote
    rw [firstPiece_quote]
    by_cases closed : ClosesQuote rest
    · obtain ⟨inside, tail, rfl, plain⟩ := closed
      rw [stringPiece_closed plain]
      exact ⟨_, rfl, .string inside plain, Or.inl (.string inside plain)⟩
    · rw [stringPiece_open closed]
      exact ⟨_, rfl, hasKind_singleKind solid digit letter, Or.inr rfl⟩
  rw [firstPiece_symbol solid digit letter quote]
  cases rest with
  | nil => exact ⟨_, rfl, hasKind_singleKind solid digit letter, Or.inr rfl⟩
  | cons second rest =>
    cases pair : pairKind first second with
    | some kind =>
      rw [symbolPiece_of_pair pair]
      exact ⟨_, rfl, hasKind_spelling (spelling_of_pairKind pair).2,
        Or.inl (isLexeme_of_pairKind pair)⟩
    | none =>
      rw [symbolPiece_of_single fun next member => Option.mem_some.mp member ▸ pair]
      exact ⟨_, rfl, hasKind_singleKind solid digit letter, Or.inr rfl⟩

theorem length_le_takeWhile {accepts : Char → Bool} {run text : List Char} (front : run <+: text)
    (accepted : ∀ c ∈ run, accepts c = true) : run.length ≤ (text.takeWhile accepts).length := by
  obtain ⟨tail, rfl⟩ := front
  rw [List.takeWhile_append_of_pos accepted, List.length_append]
  exact Nat.le_add_right _ _

/-- The scanner takes no less than any lexeme at the front of the text would. -/
theorem IsLexeme.length_le_firstPiece {first : Char} {rest other : List Char}
    (lexeme : IsLexeme other) (front : other <+: first :: rest) :
    other.length ≤ (first :: (firstPiece first rest).more).length := by
  cases lexeme with
  | number c more digit run =>
    obtain ⟨rfl, further⟩ := List.cons_prefix_cons.mp front
    rw [firstPiece_digit digit]
    exact Nat.succ_le_succ (length_le_takeWhile further run)
  | word c more letter run =>
    obtain ⟨rfl, further⟩ := List.cons_prefix_cons.mp front
    rw [firstPiece_letter letter]
    exact Nat.succ_le_succ (length_le_takeWhile further run)
  | string inside plain =>
    obtain ⟨rfl, tail, rfl⟩ := List.cons_prefix_cons.mp front
    have piece : firstPiece '"' (inside ++ ['"'] ++ tail) =
        ⟨some .stringLiteral, '"', inside ++ ['"']⟩ := by
      rw [firstPiece_quote, List.append_assoc, List.singleton_append, stringPiece_closed plain]
    exact piece ▸ Nat.le_refl _
  | symbol kind spelling symbol spelled =>
    rcases symbol_cases symbol spelled with ⟨c, shape, -⟩ | ⟨c, second, shape, pair⟩
    · rw [shape]
      exact Nat.le_add_left 1 _
    · rw [shape] at front ⊢
      obtain ⟨rfl, tail, rfl⟩ := List.cons_prefix_cons.mp front
      obtain ⟨solid, noDigit, noLetter, unquoted⟩ := plain_of_pairKind pair
      have piece : firstPiece c ([second] ++ tail) = ⟨some kind, c, [second]⟩ := by
        rw [firstPiece_symbol solid noDigit noLetter unquoted, List.singleton_append,
          symbolPiece_of_pair pair]
      exact piece ▸ Nat.le_refl _

/-- What the scanner takes is the longest lexeme there is. -/
theorem munched_firstPiece {first : Char} (solid : isBlank first = false) (rest : List Char) :
    Munched (first :: rest) (first :: (firstPiece first rest).more) := by
  have front : first :: (firstPiece first rest).more <+: first :: rest :=
    List.cons_prefix_cons.mpr ⟨rfl, _, more_append_drop first rest⟩
  by_cases lexeme : IsLexeme (first :: (firstPiece first rest).more)
  · exact .longest _ front lexeme fun other isFront isLexeme =>
      isLexeme.length_le_firstPiece isFront
  · obtain ⟨kind, -, -, either⟩ := firstPiece_of_solid solid rest
    have alone := either.resolve_left lexeme
    rw [alone] at front lexeme ⊢
    refine .single first front fun other isFront isLexeme => ?_
    -- A lexeme would be no longer than the single character, so it would be that character.
    have short := isLexeme.length_le_firstPiece isFront
    rw [alone] at short
    obtain rfl : other = [first] := by
      refine (List.prefix_of_prefix_length_le isFront front short).eq_of_length_le ?_
      exact List.length_pos_iff.mpr isLexeme.ne_nil
    exact lexeme isLexeme

theorem Munched.ne_nil {text value : List Char} (munched : Munched text value) : value ≠ [] := by
  cases munched with
  | longest value front lexeme longest => exact lexeme.ne_nil
  | single c front none => exact List.cons_ne_nil c []

theorem Munched.unique {text first second : List Char} (one : Munched text first)
    (other : Munched text second) : first = second := by
  cases one with
  | longest first front lexeme longest =>
    cases other with
    | longest second frontSecond lexemeSecond longestSecond =>
      have shorter := longestSecond first front lexeme
      exact (List.prefix_of_prefix_length_le front frontSecond shorter).eq_of_length_le
        (longest second frontSecond lexemeSecond)
    | single c frontSecond none => exact absurd lexeme (none first front)
  | single c front none =>
    cases other with
    | longest second frontSecond lexeme longest => exact absurd lexeme (none second frontSecond)
    | single d frontSecond noneSecond =>
      exact (List.prefix_of_prefix_length_le front frontSecond (Nat.le_refl 1)).eq_of_length_le
        (Nat.le_refl 1)

/-! ### The whole text -/

/-- The values of the lexemes of a text. -/
def lexemeValues (text : List Char) : List (List Char) :=
  (lexemes text).map fun lexeme => lexeme.2.toList

theorem lexemes_solid {first : Char} {more behind : List Char} (solid : isBlank first = false)
    (cut : (firstPiece first (more ++ behind)).more = more) :
    ∃ kind, HasKind (first :: more) kind ∧ lexemes (first :: (more ++ behind)) =
      (kind, String.ofList (first :: more)) :: lexemes behind := by
  obtain ⟨kind, isKind, hasKind, -⟩ := firstPiece_of_solid solid (more ++ behind)
  exact ⟨kind, cut ▸ hasKind, lexemes_of_firstPiece (firstPiece_eq cut isKind)⟩

theorem lexemeValues_solid {first : Char} {more behind : List Char} (solid : isBlank first = false)
    (cut : (firstPiece first (more ++ behind)).more = more) :
    lexemeValues (first :: (more ++ behind)) = (first :: more) :: lexemeValues behind := by
  obtain ⟨kind, -, read⟩ := lexemes_solid solid cut
  unfold lexemeValues
  rw [read, List.map_cons, String.toList_ofList]

theorem lexemeValues_nil : lexemeValues [] = [] := by
  unfold lexemeValues
  rw [lexemes_nil, List.map_nil]

theorem lexemeValues_blanks {gap : List Char} (blank : ∀ c ∈ gap, isBlank c = true)
    (rest : List Char) : lexemeValues (gap ++ rest) = lexemeValues rest :=
  congrArg (List.map _) (lexemes_blanks blank rest)

/-- Whitespace may be put in front of a text. -/
theorem Munches.skip {gap text : List Char} {taken : List (List Char)}
    (blank : ∀ c ∈ gap, isBlank c = true) (munches : Munches text taken) :
    Munches (gap ++ text) taken := by
  have both {other : List Char} (blankOther : ∀ c ∈ other, isBlank c = true) :
      ∀ c ∈ gap ++ other, isBlank c = true :=
    fun c member => (List.mem_append.mp member).elim (blank c) (blankOther c)
  cases munches with
  | ended other blankOther => exact .ended _ (both blankOther)
  | taken other value rest later blankOther solid munched munches =>
    rw [← List.append_assoc]
    exact .taken _ value rest later (both blankOther) solid munched munches

theorem munches_values (text : List Char) : Munches text (lexemeValues text) := by
  induction text using pieces_induction with
  | nil =>
    rw [lexemeValues_nil]
    exact .ended [] fun c member => absurd member List.not_mem_nil
  | cons first more behind cut inductionHypothesis =>
    by_cases blank : isBlank first = true
    · have blanks : ∀ c ∈ first :: more, isBlank c = true :=
        List.forall_mem_cons.mpr ⟨blank, blank_of_mem_more blank cut⟩
      rw [← List.cons_append, lexemeValues_blanks blanks]
      exact inductionHypothesis.skip blanks
    · have solid : isBlank first = false := Bool.eq_false_iff.mpr blank
      have munched := munched_firstPiece solid (more ++ behind)
      rw [cut] at munched
      rw [lexemeValues_solid solid cut]
      refine .taken [] (first :: more) behind _ (fun c member => absurd member List.not_mem_nil)
        (fun c isFirst => ?_) munched inductionHypothesis
      rwa [← Option.some.inj isFirst]

/-- The values of the lexemes are all that can be taken. -/
theorem Munches.eq_values {text : List Char} {taken : List (List Char)}
    (munches : Munches text taken) : taken = lexemeValues text := by
  induction munches with
  | ended gap blank =>
    have none : lexemeValues (gap ++ []) = lexemeValues [] := lexemeValues_blanks blank []
    rw [List.append_nil] at none
    rw [none, lexemeValues_nil]
  | taken gap value rest later blank solid munched munches inductionHypothesis =>
    rw [lexemeValues_blanks blank, inductionHypothesis]
    cases value with
    | nil => exact absurd rfl munched.ne_nil
    | cons first more =>
      have isSolid : isBlank first = false := solid first rfl
      have same := munched.unique (munched_firstPiece isSolid (more ++ rest))
      exact (lexemeValues_solid isSolid (List.cons.inj same).2.symm).symm

/-- A lexeme stands in one row, does not start with whitespace, and has the kind of its value. -/
theorem hasKind_of_mem_lexemes (text : List Char) : ∀ lexeme ∈ lexemes text,
    lexeme.2.toList ≠ [] ∧ '\n' ∉ lexeme.2.toList ∧
      (∀ c ∈ lexeme.2.toList.head?, isBlank c = false) ∧ HasKind lexeme.2.toList lexeme.1 := by
  induction text using pieces_induction with
  | nil =>
    rw [lexemes_nil]
    exact fun _ member => absurd member List.not_mem_nil
  | cons first more behind cut inductionHypothesis =>
    by_cases blank : isBlank first = true
    · rw [lexemes_blank blank, lexemes_blanks (blank_of_mem_more blank cut)]
      exact inductionHypothesis
    · have solid : isBlank first = false := Bool.eq_false_iff.mpr blank
      have sameRow : '\n' ∉ first :: more :=
        cut ▸ lineFeed_not_mem_firstPiece solid (more ++ behind)
      obtain ⟨kind, hasKind, read⟩ := lexemes_solid solid cut
      rw [read]
      refine List.forall_mem_cons.mpr ⟨?_, inductionHypothesis⟩
      simp only [String.toList_ofList]
      refine ⟨List.cons_ne_nil first more, sameRow, fun c isFirst => ?_, hasKind⟩
      rwa [← Option.some.inj isFirst]

/-- The tokens of a cleaned text are one for the end of input and, in front of it, those of the
longest lexemes: their values are what can be taken from the text, and nothing else can. No value
is empty, holds a line feed or starts with whitespace, and the kind of a token is the one kind of
its value. -/
theorem CleanSource.tokens_longest (clean : CleanSource) (file : String) :
    ∃ lexical last, clean.tokens file = lexical ++ [last] ∧
      last.lexeme = (.endOfInput, "EOF") ∧
      (∀ taken, Munches clean.text.toList taken ↔
        taken = lexical.map fun token => token.value.toList) ∧
      ∀ token ∈ lexical, token.value ≠ "" ∧ '\n' ∉ token.value.toList ∧
        (∀ c ∈ token.value.toList.head?, isBlank c = false) ∧ token.kind ≠ .endOfInput ∧
        ∀ kind, HasKind token.value.toList kind ↔ token.kind = kind := by
  obtain ⟨lexical, ended, whole, isLexical, isEnded⟩ :=
    List.map_eq_append_iff.mp (map_lexeme_tokens clean file)
  obtain ⟨last, rfl, isLast⟩ := List.map_eq_singleton_iff.mp isEnded
  have sameValues : lexemeValues clean.text.toList =
      lexical.map fun token => token.value.toList := by
    unfold lexemeValues
    rw [← isLexical, List.map_map]
    rfl
  refine ⟨lexical, last, whole, isLast, fun taken => ?_, fun token member => ?_⟩
  · rw [← sameValues]
    refine ⟨Munches.eq_values, ?_⟩
    rintro rfl
    exact munches_values _
  · have among : token.lexeme ∈ lexemes clean.text.toList :=
      isLexical ▸ List.mem_map_of_mem member
    obtain ⟨filled, sameRow, solid, hasKind⟩ := hasKind_of_mem_lexemes _ _ among
    refine ⟨fun empty => filled ?_, sameRow, solid, hasKind.ne_endOfInput, fun kind => ?_⟩
    · exact String.toList_eq_nil_iff.mpr empty
    · refine ⟨hasKind.unique, ?_⟩
      rintro rfl
      exact hasKind

end HLang
