/-
This file says what the scanner reads off a text: its lexemes, which are the kinds and values of
its tokens without their places. Two facts about them carry everything that is said about spaces
elsewhere. A lexeme depends on what follows it only through the next character, and not even on
that if the two need no separator, by `firstPiece_append_congr`. And a text may be cut in front
of a blank, unless a quote that is open there is closed later, by `lexemes_append`.
-/

import HLang.Proofs.Source.Rows
import HLang.Token.Scan

namespace HLang

/-! ### Kinds and values -/

def Token.lexeme (token : Token) : TokenKind × String :=
  (token.kind, token.value)

def Piece.lexeme? (piece : Piece) : Option (TokenKind × String) :=
  piece.kind.map fun kind => (kind, String.ofList piece.text)

/-- The lexemes of a text, from its front to its end. -/
def lexemes (text : List Char) : List (TokenKind × String) :=
  (pieces text).filterMap Piece.lexeme?

theorem map_lexeme_placeTokens (clean : CleanSource) (file : String) (place : Place)
    (pieces : List Piece) :
    (placeTokens clean file place pieces).map Token.lexeme =
      pieces.filterMap Piece.lexeme? ++ [(.endOfInput, "EOF")] := by
  induction pieces generalizing place with
  | nil => rfl
  | cons piece more inductionHypothesis =>
    obtain ⟨kind, first, rest⟩ := piece
    cases kind with
    | none => exact inductionHypothesis _
    | some kind =>
      exact congrArg ((kind, String.ofList (first :: rest)) :: ·) (inductionHypothesis _)

/-- The tokens of a text are its lexemes and the end of input. -/
theorem map_lexeme_tokens (clean : CleanSource) (file : String) :
    (clean.tokens file).map Token.lexeme =
      lexemes clean.text.toList ++ [(.endOfInput, "EOF")] :=
  map_lexeme_placeTokens clean file Place.start (pieces clean.text.toList)

theorem lexemes_nil : lexemes [] = [] := by
  unfold lexemes
  rw [pieces]
  rfl

theorem lexemes_cons (first : Char) (rest : List Char) :
    lexemes (first :: rest) = (firstPiece first rest).lexeme?.toList ++
      lexemes (rest.drop (firstPiece first rest).more.length) := by
  unfold lexemes
  rw [pieces, List.filterMap_cons]
  cases (firstPiece first rest).lexeme? <;> rfl

theorem more_append_drop (first : Char) (rest : List Char) :
    (firstPiece first rest).more ++ rest.drop (firstPiece first rest).more.length = rest :=
  (List.cons.inj (firstPiece_text first rest)).2

/-- Induction on the pieces of a text: a text that is not empty is its first piece, which is
`first :: more`, and a text behind it. -/
@[elab_as_elim]
theorem pieces_induction {motive : List Char → Prop} (text : List Char) (nil : motive [])
    (cons : ∀ first more behind, (firstPiece first (more ++ behind)).more = more →
      motive behind → motive (first :: (more ++ behind))) : motive text := by
  induction text using pieces.induct with
  | case1 => exact nil
  | case2 first rest piece inductionHypothesis =>
    have whole : piece.more ++ rest.drop piece.more.length = rest := more_append_drop first rest
    rw [← whole]
    refine cons first piece.more _ ?_ inductionHypothesis
    rw [whole]

theorem lexemes_cut {first : Char} {more behind : List Char}
    (cut : (firstPiece first (more ++ behind)).more = more) :
    lexemes (first :: (more ++ behind)) =
      (firstPiece first (more ++ behind)).lexeme?.toList ++ lexemes behind := by
  rw [lexemes_cons, cut, List.drop_left]

/-- The lexemes of a text whose first piece is known. -/
theorem lexemes_of_firstPiece {first : Char} {more behind : List Char} {kind : TokenKind}
    (front : firstPiece first (more ++ behind) = ⟨some kind, first, more⟩) :
    lexemes (first :: (more ++ behind)) =
      (kind, String.ofList (first :: more)) :: lexemes behind := by
  rw [lexemes_cut (by rw [front]), front]
  rfl

/-! ### Blanks -/

theorem firstPiece_blank {first : Char} (blank : isBlank first = true) (rest : List Char) :
    firstPiece first rest = ⟨none, first, rest.takeWhile isBlank⟩ := by
  unfold firstPiece
  rw [if_pos blank]

/-- A blank at the front of a text stands in no lexeme. -/
theorem lexemes_blank {first : Char} (blank : isBlank first = true) (rest : List Char) :
    lexemes (first :: rest) = lexemes rest := by
  have skip (first : Char) (blank : isBlank first = true) (rest : List Char) :
      lexemes (first :: rest) = lexemes (rest.drop (rest.takeWhile isBlank).length) := by
    rw [lexemes_cons, firstPiece_blank blank]
    rfl
  rw [skip first blank]
  cases rest with
  | nil => rfl
  | cons second rest =>
    by_cases blankSecond : isBlank second = true
    · rw [skip second blankSecond, List.takeWhile_cons_of_pos blankSecond]
      rfl
    · rw [List.takeWhile_cons_of_neg blankSecond]
      rfl

theorem lexemes_blanks {front : List Char} (blank : ∀ c ∈ front, isBlank c = true)
    (rest : List Char) : lexemes (front ++ rest) = lexemes rest := by
  induction front with
  | nil => rfl
  | cons first more inductionHypothesis =>
    rw [List.cons_append, lexemes_blank (blank first List.mem_cons_self)]
    exact inductionHypothesis fun c member => blank c (List.mem_cons_of_mem _ member)

/-- A piece that starts with a blank holds blanks only. -/
theorem blank_of_mem_more {first : Char} {more behind : List Char} (blank : isBlank first = true)
    (cut : (firstPiece first (more ++ behind)).more = more) : ∀ c ∈ more, isBlank c = true := by
  rw [firstPiece_blank blank] at cut
  rw [← cut]
  exact List.all_eq_true.mp List.all_takeWhile

/-! ### The characters of words and numbers -/

theorem isNumberChar_of_isDigit {c : Char} (digit : c.isDigit = true) :
    isNumberChar c = true := by
  simp [isNumberChar, Char.isAlphanum, digit]

theorem isNumberChar_of_isAlpha {c : Char} (letter : c.isAlpha = true) :
    isNumberChar c = true := by
  simp [isNumberChar, Char.isAlphanum, letter]

theorem isNumberChar_of_isAlphanum {c : Char} (either : c.isAlphanum = true) :
    isNumberChar c = true := by
  simp [isNumberChar, either]

theorem toNat_of_isAlpha {c : Char} (letter : c.isAlpha = true) :
    65 ≤ c.toNat ∧ c.toNat ≤ 122 := by
  rcases Bool.or_eq_true_iff.mp letter with upper | lower
  · have bounds : 'A'.val ≤ c.val ∧ c.val ≤ 'Z'.val := of_decide_eq_true upper
    have first : 65 ≤ c.toNat := bounds.1
    have last : c.toNat ≤ 90 := bounds.2
    omega
  · have bounds := Bool.and_eq_true_iff.mp lower
    have first : 97 ≤ c.toNat := of_decide_eq_true bounds.1
    have last : c.toNat ≤ 122 := of_decide_eq_true bounds.2
    omega

theorem toNat_of_isDigit {c : Char} (digit : c.isDigit = true) :
    48 ≤ c.toNat ∧ c.toNat ≤ 57 :=
  Char.isDigit_iff_toNat.mp digit

theorem not_isDigit_of_isAlpha {c : Char} (letter : c.isAlpha = true) : ¬ c.isDigit = true := by
  intro digit
  have letterRange := toNat_of_isAlpha letter
  have digitRange := toNat_of_isDigit digit
  omega

theorem toNat_of_isNumberChar {c : Char} (numberChar : isNumberChar c = true) :
    46 ≤ c.toNat ∧ c.toNat ≤ 122 := by
  rcases Bool.or_eq_true_iff.mp numberChar with either | dot
  · rcases Bool.or_eq_true_iff.mp either with letter | digit
    · have range := toNat_of_isAlpha letter
      omega
    · have range := toNat_of_isDigit digit
      omega
  · rw [beq_iff_eq.mp dot]
    decide

/-- The characters of words and numbers are no blanks. -/
theorem isBlank_of_isNumberChar {c : Char} (numberChar : isNumberChar c = true) :
    isBlank c = false := by
  have range := toNat_of_isNumberChar numberChar
  unfold isBlank
  simp only [Bool.or_eq_false_iff, Bool.and_eq_false_iff, decide_eq_false_iff_not,
    beq_eq_false_iff_ne]
  omega

/-! ### The piece at the front -/

theorem firstPiece_digit {first : Char} (digit : first.isDigit = true) (rest : List Char) :
    firstPiece first rest = ⟨some (numberKind (first :: rest.takeWhile isNumberChar)), first,
      rest.takeWhile isNumberChar⟩ := by
  have solid := isBlank_of_isNumberChar (isNumberChar_of_isDigit digit)
  unfold firstPiece
  rw [if_neg (Bool.eq_false_iff.mp solid), if_pos digit]

theorem firstPiece_letter {first : Char} (letter : first.isAlpha = true) (rest : List Char) :
    firstPiece first rest = ⟨some (wordKind (first :: rest.takeWhile Char.isAlphanum)), first,
      rest.takeWhile Char.isAlphanum⟩ := by
  have solid := isBlank_of_isNumberChar (isNumberChar_of_isAlpha letter)
  unfold firstPiece
  rw [if_neg (Bool.eq_false_iff.mp solid), if_neg (not_isDigit_of_isAlpha letter), if_pos letter]

theorem firstPiece_quote (rest : List Char) : firstPiece '"' rest = stringPiece rest := rfl

theorem firstPiece_symbol {first : Char} (solid : isBlank first = false)
    (noDigit : ¬ first.isDigit = true) (noLetter : ¬ first.isAlpha = true)
    (unquoted : first ≠ '"') (rest : List Char) :
    firstPiece first rest = symbolPiece first rest := by
  unfold firstPiece
  rw [if_neg (Bool.eq_false_iff.mp solid), if_neg noDigit, if_neg noLetter, if_neg unquoted]

/-! ### Neighbours that need no separator -/

/-- The pairs that the cleaner keeps apart are those that the scanner reads as one symbol. -/
theorem contains_fusingPairs (previous next : Char) :
    fusingPairs.contains (previous, next) = (pairKind previous next).isSome := by
  unfold pairKind
  split
  case h_7 colonEquals lessLess lessEquals greaterEquals equals notEquals =>
    have outside : (previous, next) ∉ fusingPairs := by
      simp only [fusingPairs, List.mem_cons, Prod.mk.injEq, List.not_mem_nil, or_false, not_or,
        not_and]
      exact ⟨colonEquals, lessLess, lessEquals, greaterEquals, equals, notEquals⟩
    rw [List.contains_eq_mem, decide_eq_false outside]
    rfl
  all_goals rfl

/-- What the cleaner takes for parts of one lexeme, the scanner reads as one. -/
theorem needsSeparator_eq (previous next : Char) :
    needsSeparator previous next =
      (isNumberChar previous && isNumberChar next || (pairKind previous next).isSome) :=
  congrArg (isNumberChar previous && isNumberChar next || ·) (contains_fusingPairs previous next)

/-- The first character of a text, if it has one, needs no separator from `last`. -/
def Apart (last : Char) (text : List Char) : Prop :=
  ∀ next ∈ text.head?, needsSeparator last next = false

theorem second_of_pairKind {first second : Char} {kind : TokenKind}
    (pair : pairKind first second = some kind) : second = '=' ∨ second = '<' := by
  unfold pairKind at pair
  split at pair <;> simp at pair ⊢

theorem pairKind_blank {next : Char} (blank : isBlank next = true) (last : Char) :
    pairKind last next = none := by
  cases pair : pairKind last next with
  | none => rfl
  | some kind =>
    rcases second_of_pairKind pair with rfl | rfl
    · exact absurd blank (by decide)
    · exact absurd blank (by decide)

/-- No separator is needed in front of a blank. -/
theorem needsSeparator_blank {next : Char} (blank : isBlank next = true) (last : Char) :
    needsSeparator last next = false := by
  have other : isNumberChar next = false := by
    cases numberChar : isNumberChar next with
    | false => rfl
    | true => rw [isBlank_of_isNumberChar numberChar] at blank; exact blank.symm
  rw [needsSeparator_eq, other, pairKind_blank blank, Bool.and_false]
  rfl

theorem apart_of_blank {text : List Char} (blank : ∀ c ∈ text.head?, isBlank c = true)
    (last : Char) : Apart last text :=
  fun next member => needsSeparator_blank (blank next member) last

theorem isNumberChar_of_apart {last next : Char} (numberChar : isNumberChar last = true)
    (apart : needsSeparator last next = false) : isNumberChar next = false := by
  rw [needsSeparator_eq, numberChar, Bool.true_and] at apart
  exact (Bool.or_eq_false_iff.mp apart).1

theorem pairKind_of_apart {last next : Char} (apart : needsSeparator last next = false) :
    pairKind last next = none := by
  rw [needsSeparator_eq] at apart
  exact Option.isNone_iff_eq_none.mp
    (Option.isSome_eq_false_iff.mp (Bool.or_eq_false_iff.mp apart).2)

/-! ### What a lexeme depends on -/

theorem takeWhile_append_eq_iff {accepts : Char → Bool} {front back : List Char} :
    (front ++ back).takeWhile accepts = front ↔
      (∀ c ∈ front, accepts c = true) ∧ ∀ c ∈ back.head?, accepts c = false := by
  induction front with
  | nil =>
    cases back with
    | nil => simp
    | cons next back => simp [List.takeWhile_cons]
  | cons first front inductionHypothesis =>
    rw [List.cons_append, List.takeWhile_cons]
    by_cases accepted : accepts first = true
    · rw [if_pos accepted, List.cons_inj_right, inductionHypothesis, List.forall_mem_cons]
      simp [accepted]
    · simp [accepted]

theorem takeWhile_eq_self {accepts : Char → Bool} {run : List Char}
    (accepted : ∀ c ∈ run, accepts c = true) : run.takeWhile accepts = run := by
  have whole : (run ++ []).takeWhile accepts = run ++ [].takeWhile accepts :=
    List.takeWhile_append_of_pos accepted
  rwa [List.takeWhile_nil, List.append_nil] at whole

/-- A run of characters of words or numbers ends where it did, if what follows starts as before
or needs no separator from the run. -/
theorem takeWhile_append_congr {accepts : Char → Bool} {first : Char}
    {more tail other : List Char} (narrow : ∀ c, accepts c = true → isNumberChar c = true)
    (numberChar : isNumberChar first = true) (cut : (more ++ tail).takeWhile accepts = more)
    (agrees : other.head? = tail.head? ∨ Apart (more.getLastD first) other) :
    (more ++ other).takeWhile accepts = more := by
  obtain ⟨run, ends⟩ := takeWhile_append_eq_iff.mp cut
  refine takeWhile_append_eq_iff.mpr ⟨run, fun next isNext => ?_⟩
  rcases agrees with same | apart
  · exact ends next (same ▸ isNext)
  · have last : isNumberChar (more.getLastD first) = true := by
      rcases List.mem_cons.mp (List.getLastD_mem_cons (l := more) (a := first)) with only | among
      · rw [only]
        exact numberChar
      · exact narrow _ (run _ among)
    have outside := isNumberChar_of_apart last (apart next isNext)
    exact Bool.eq_false_iff.mpr fun accepted =>
      Bool.eq_false_iff.mp outside (narrow next accepted)

theorem symbolPiece_of_pair {first second : Char} {kind : TokenKind}
    (pair : pairKind first second = some kind) (rest : List Char) :
    symbolPiece first (second :: rest) = ⟨some kind, first, [second]⟩ := by
  unfold symbolPiece
  rw [List.head?_cons, Option.bind_some, pair]
  rfl

theorem symbolPiece_of_single {first : Char} {rest : List Char}
    (single : ∀ next ∈ rest.head?, pairKind first next = none) :
    symbolPiece first rest = ⟨some ((singleKind first).getD .unknown), first, []⟩ := by
  unfold symbolPiece
  rw [Option.bind_eq_none_iff.mpr single]

theorem symbolPiece_append_congr {first : Char} {more tail other : List Char}
    (cut : (symbolPiece first (more ++ tail)).more = more)
    (agrees : other.head? = tail.head? ∨ Apart (more.getLastD first) other) :
    symbolPiece first (more ++ other) = symbolPiece first (more ++ tail) := by
  cases more with
  | cons second more =>
    cases pair : pairKind first second with
    | some kind =>
      rw [List.cons_append, List.cons_append, symbolPiece_of_pair pair, symbolPiece_of_pair pair]
    | none =>
      rw [List.cons_append, symbolPiece_of_single fun next member => by
        rwa [← Option.mem_some.mp member]] at cut
      cases cut
  | nil =>
    have single : ∀ next ∈ tail.head?, pairKind first next = none := by
      intro next member
      obtain ⟨rest, shape⟩ := List.head?_eq_some_iff.mp member
      cases pair : pairKind first next with
      | none => rfl
      | some kind =>
        rw [List.nil_append, shape, symbolPiece_of_pair pair] at cut
        cases cut
    have singleOther : ∀ next ∈ other.head?, pairKind first next = none := by
      intro next member
      rcases agrees with same | apart
      · exact single next (same ▸ member)
      · exact pairKind_of_apart (apart next member)
    rw [List.nil_append, List.nil_append, symbolPiece_of_single single,
      symbolPiece_of_single singleOther]

/-- The lexeme at the front of a text, unless it starts with a quote, stays the same if what
follows it is replaced by something that starts as before or needs no separator from it. -/
theorem firstPiece_append_congr {first : Char} {more tail other : List Char}
    (solid : isBlank first = false) (unquoted : first ≠ '"')
    (cut : (firstPiece first (more ++ tail)).more = more)
    (agrees : other.head? = tail.head? ∨ Apart (more.getLastD first) other) :
    firstPiece first (more ++ other) = firstPiece first (more ++ tail) := by
  by_cases digit : first.isDigit = true
  · have whole : (more ++ tail).takeWhile isNumberChar = more :=
      (congrArg Piece.more (firstPiece_digit digit (more ++ tail))).symm.trans cut
    have same := takeWhile_append_congr (fun c numberChar => numberChar)
      (isNumberChar_of_isDigit digit) whole agrees
    rw [firstPiece_digit digit, firstPiece_digit digit, same, whole]
  by_cases letter : first.isAlpha = true
  · have whole : (more ++ tail).takeWhile Char.isAlphanum = more :=
      (congrArg Piece.more (firstPiece_letter letter (more ++ tail))).symm.trans cut
    have same := takeWhile_append_congr (fun c => isNumberChar_of_isAlphanum)
      (isNumberChar_of_isAlpha letter) whole agrees
    rw [firstPiece_letter letter, firstPiece_letter letter, same, whole]
  rw [firstPiece_symbol solid digit letter unquoted] at cut
  rw [firstPiece_symbol solid digit letter unquoted, firstPiece_symbol solid digit letter unquoted]
  exact symbolPiece_append_congr cut agrees

/-! ### String literals -/

/-- Behind a quote, the text closes the string literal. -/
def ClosesQuote (text : List Char) : Prop :=
  ∃ inside tail, text = inside ++ '"' :: tail ∧ ∀ c ∈ inside, isStringChar c = true

theorem stringInside_append {inside : List Char} (plain : ∀ c ∈ inside, isStringChar c = true)
    (tail : List Char) : stringInside (inside ++ '"' :: tail) = inside :=
  takeWhile_append_eq_iff.mpr ⟨plain, fun next member => by
    obtain rfl := Option.some.inj member
    rfl⟩

theorem stringPiece_closed {inside : List Char} (plain : ∀ c ∈ inside, isStringChar c = true)
    (tail : List Char) :
    stringPiece (inside ++ '"' :: tail) = ⟨some .stringLiteral, '"', inside ++ ['"']⟩ := by
  unfold stringPiece
  rw [stringInside_append plain, List.drop_left, List.head?_cons, if_pos rfl]

theorem stringPiece_open {rest : List Char} (never : ¬ ClosesQuote rest) :
    stringPiece rest = ⟨some .unknown, '"', []⟩ := by
  unfold stringPiece
  refine if_neg fun closed => never ?_
  obtain ⟨tail, shape⟩ := List.head?_eq_some_iff.mp closed
  refine ⟨stringInside rest, tail, ?_, List.all_eq_true.mp List.all_takeWhile⟩
  rw [← shape]
  exact (takeWhile_append_drop_length isStringChar rest).symm

theorem closesQuote_append {front back : List Char} (closed : ClosesQuote (front ++ back)) :
    ClosesQuote front ∨ ClosesQuote back := by
  obtain ⟨inside, tail, shape, plain⟩ := closed
  rcases List.append_eq_append_iff.mp shape with ⟨middle, rfl, after⟩ | ⟨middle, rfl, after⟩
  · exact Or.inr ⟨middle, tail, after, fun c member => plain c (List.mem_append_right _ member)⟩
  · cases middle with
    | nil => exact Or.inr ⟨[], tail, after.symm, fun c member => absurd member List.not_mem_nil⟩
    | cons first middle =>
      obtain ⟨rfl, -⟩ := List.cons.inj after
      exact Or.inl ⟨inside, middle, rfl, plain⟩

theorem quote_mem_of_closesQuote {text : List Char} (closes : ClosesQuote text) : '"' ∈ text := by
  obtain ⟨inside, tail, rfl, -⟩ := closes
  exact List.mem_append_right inside List.mem_cons_self

theorem not_closesQuote_lineFeed (rest : List Char) : ¬ ClosesQuote ('\n' :: rest) := by
  rintro ⟨inside, tail, shape, plain⟩
  cases inside with
  | nil => exact absurd (List.cons.inj shape).1 (by decide)
  | cons first inside =>
    obtain ⟨rfl, -⟩ := List.cons.inj shape
    exact absurd (plain '\n' List.mem_cons_self) (by decide)

/-! ### Cutting a text -/

/-- A piece is not changed by what comes to stand behind the text it is taken from, if that
starts with a blank and closes no quote. -/
theorem firstPiece_append {first : Char} {rest tail : List Char} (solid : isBlank first = false)
    (blank : ∀ c ∈ tail.head?, isBlank c = true) (never : ¬ ClosesQuote tail) :
    firstPiece first (rest ++ tail) = firstPiece first rest := by
  by_cases quote : first = '"'
  · rw [quote, firstPiece_quote, firstPiece_quote]
    by_cases closed : ClosesQuote rest
    · obtain ⟨inside, behind, rfl, plain⟩ := closed
      rw [List.append_assoc, List.cons_append, stringPiece_closed plain, stringPiece_closed plain]
    · have still : ¬ ClosesQuote (rest ++ tail) := fun closes =>
        (closesQuote_append closes).elim closed never
      rw [stringPiece_open closed, stringPiece_open still]
  · have whole := more_append_drop first rest
    have agrees : (rest.drop (firstPiece first rest).more.length ++ tail).head? =
          (rest.drop (firstPiece first rest).more.length).head? ∨
        Apart ((firstPiece first rest).more.getLastD first)
          (rest.drop (firstPiece first rest).more.length ++ tail) := by
      cases rest.drop (firstPiece first rest).more.length with
      | nil => exact Or.inr (apart_of_blank blank _)
      | cons next behind => exact Or.inl rfl
    have same := firstPiece_append_congr solid quote (congrArg _ (congrArg _ whole)) agrees
    rwa [← List.append_assoc, whole] at same

/-- The lexemes of a text that is cut in front of a blank, where no quote that is open in front of
the cut is closed behind it. -/
theorem lexemes_append {text tail : List Char} (blank : ∀ c ∈ tail.head?, isBlank c = true)
    (never : ¬ ClosesQuote tail) : lexemes (text ++ tail) = lexemes text ++ lexemes tail := by
  induction text using pieces_induction with
  | nil => rw [lexemes_nil, List.nil_append, List.nil_append]
  | cons first more behind cut inductionHypothesis =>
    by_cases solid : isBlank first = true
    · have blanks := blank_of_mem_more solid cut
      rw [List.cons_append, List.append_assoc, lexemes_blank solid, lexemes_blank solid,
        lexemes_blanks blanks, lexemes_blanks blanks, inductionHypothesis]
    · have stays : firstPiece first (more ++ behind ++ tail) = firstPiece first (more ++ behind) :=
        firstPiece_append (Bool.eq_false_iff.mpr solid) blank never
      have cutLater : (firstPiece first (more ++ (behind ++ tail))).more = more := by
        rw [← List.append_assoc, stays, cut]
      rw [lexemes_cut cut, List.cons_append, List.append_assoc, lexemes_cut cutLater,
        ← List.append_assoc, stays, inductionHypothesis, List.append_assoc]

/-- A line feed ends every lexeme. -/
theorem lexemes_append_lineFeed (front back : List Char) :
    lexemes (front ++ '\n' :: back) = lexemes front ++ lexemes back := by
  have blank : ∀ c ∈ ('\n' :: back).head?, isBlank c = true := fun c member => by
    obtain rfl := Option.some.inj member
    rfl
  rw [lexemes_append blank (not_closesQuote_lineFeed back), lexemes_blank rfl]

theorem lexemes_append_return (text : List Char) : lexemes (text ++ ['\r']) = lexemes text := by
  have blank : ∀ c ∈ ['\r'].head?, isBlank c = true := fun c member => by
    obtain rfl := Option.some.inj member
    rfl
  have never : ¬ ClosesQuote ['\r'] := fun closes =>
    absurd (quote_mem_of_closesQuote closes) (by decide)
  rw [lexemes_append blank never, lexemes_blank rfl, lexemes_nil, List.append_nil]

theorem lexemes_joinLines (rows : List (List Char)) :
    lexemes (joinLines rows) = rows.flatMap lexemes := by
  induction rows with
  | nil => exact lexemes_nil
  | cons row more inductionHypothesis =>
    cases more with
    | nil =>
      rw [joinLines_singleton, List.flatMap_singleton]
    | cons next more =>
      rw [joinLines_cons_cons, lexemes_append_lineFeed, inductionHypothesis]
      rfl

end HLang
