/-
This file proves which texts cleaning yields: the canonical ones, and each of them is its own
cleaned text. A canonical text has no empty rows, and outside quotes its only blanks are single
spaces between two characters that need a separator. That cleaning twice is cleaning once is a
consequence.

The definition of a canonical row looks at the blanks of the row one by one. The cleaner reads
the row from left to right, and so does `Tidy`, which says the same of the rest of a row, given
the character in front of it and whether that rest starts within quotes.
-/

import HLang.Proofs.Source.Quotes
import HLang.Proofs.Token.Lexemes

namespace HLang

/-! ### Canonical texts -/

/-- What stands behind the text stands within quotes: an odd number of quotes went before. -/
def endsQuoted (before : List Char) : Bool :=
  before.count '"' % 2 == 1

/-- A row that is not empty, holds no line end, and outside quotes holds no blanks but single
spaces that separate two characters which would be read as one lexeme otherwise. -/
structure CanonicalRow (row : List Char) : Prop where
  filled : row ≠ []
  noReturn : '\r' ∉ row
  noFeed : '\n' ∉ row
  separates : ∀ before c after, row = before ++ c :: after → endsQuoted before = false →
    isBlank c = true → c = ' ' ∧ ∃ previous ∈ before.getLast?, ∃ next ∈ after.head?,
      isBlank previous = false ∧ isBlank next = false ∧ needsSeparator previous next = true

/-- The text is put together from canonical rows; it may be empty. -/
def Canonical (text : String) : Prop :=
  ∃ rows, text.toList = joinLines rows ∧ ∀ row ∈ rows, CanonicalRow row

/-! ### Reading a canonical row from left to right -/

/-- What is asked of the character `c` with the text `after` behind it, if `last` is the character
in front of it. -/
def TidyAt (last : Option Char) (inside : Bool) (c : Char) (after : List Char) : Prop :=
  if inside then c ≠ '\r'
  else isBlank c = true → c = ' ' ∧ ∃ previous ∈ last, ∃ next ∈ after.head?,
    needsSeparator previous next = true

/-- The rest of a row is as the cleaner leaves it. -/
def Tidy : Option Char → Bool → List Char → Prop
  | _, _, [] => True
  | last, inside, c :: rest =>
    TidyAt last inside c rest ∧ Tidy (some c) (inside ^^ c == '"') rest

theorem endsQuoted_concat (before : List Char) (c : Char) :
    endsQuoted (before ++ [c]) = (endsQuoted before ^^ c == '"') := by
  unfold endsQuoted
  rw [List.count_append, List.count_singleton]
  by_cases quote : c = '"'
  · rw [beq_iff_eq.mpr quote, if_pos rfl, Bool.xor_true, Bool.eq_iff_iff]
    simp only [beq_iff_eq, Bool.not_eq_true', beq_eq_false_iff_ne]
    omega
  · rw [beq_eq_false_iff_ne.mpr quote, if_neg (by decide), Bool.xor_false, Nat.add_zero]

/-- The characters of a tidy rest, each with what stands in front of it in the row. -/
theorem tidy_iff {before rest : List Char} :
    Tidy before.getLast? (endsQuoted before) rest ↔
      ∀ middle c after, rest = middle ++ c :: after →
        TidyAt (before ++ middle).getLast? (endsQuoted (before ++ middle)) c after := by
  induction rest generalizing before with
  | nil =>
    refine ⟨fun _ middle c after shape => ?_, fun _ => trivial⟩
    exact absurd shape.symm (List.append_ne_nil_of_right_ne_nil _ (List.cons_ne_nil _ _))
  | cons first rest inductionHypothesis =>
    have later : Tidy (before ++ [first]).getLast? (endsQuoted (before ++ [first])) rest ↔ _ :=
      inductionHypothesis
    rw [List.getLast?_concat, endsQuoted_concat] at later
    rw [Tidy, later]
    constructor
    · rintro ⟨here, each⟩ middle c after shape
      cases middle with
      | nil =>
        obtain ⟨rfl, rfl⟩ := List.cons.inj shape
        rwa [List.append_nil]
      | cons second middle =>
        obtain ⟨rfl, rfl⟩ := List.cons.inj shape
        have there := each middle c after rfl
        rwa [← List.append_cons] at there
    · intro each
      have here := each [] first rest rfl
      rw [List.append_nil] at here
      refine ⟨here, fun middle c after shape => ?_⟩
      have there := each (first :: middle) c after (congrArg (first :: ·) shape)
      rwa [List.append_cons] at there

/-! ### The cleaner writes canonical rows -/

theorem solid_of_needsSeparator {previous next : Char}
    (separate : needsSeparator previous next = true) :
    isBlank previous = false ∧ isBlank next = false := by
  constructor
  · rw [needsSeparator_eq] at separate
    rcases Bool.or_eq_true_iff.mp separate with both | pair
    · exact isBlank_of_isNumberChar (Bool.and_eq_true_iff.mp both).1
    · unfold pairKind at pair
      split at pair <;> first | rfl | exact absurd pair (by decide)
  · refine Bool.eq_false_iff.mpr fun blank => ?_
    rw [needsSeparator_blank blank] at separate
    exact absurd separate (by decide)

theorem tidyAt_solid {c : Char} (solid : isBlank c = false) (last : Option Char)
    (after : List Char) : TidyAt last false c after :=
  fun blank => absurd blank (Bool.eq_false_iff.mp solid)

/-- A space that the cleaner writes separates its two neighbours. -/
theorem tidy_gap_append {last : Option Char} {skipped : Bool} {c : Char} {rest : List Char}
    (solid : isBlank c = false) (later : Tidy (some c) (c == '"') rest) :
    Tidy last false (gap last skipped c ++ c :: rest) := by
  have here (before : Option Char) : Tidy before false (c :: rest) :=
    ⟨tidyAt_solid solid before rest, by rwa [Bool.false_xor]⟩
  unfold gap
  split
  · rename_i separate
    have needed := (Bool.and_eq_true_iff.mp separate).2
    cases last with
    | none => exact absurd needed Bool.false_ne_true
    | some previous => exact ⟨fun _ => ⟨rfl, previous, rfl, c, rfl, needed⟩, here (some ' ')⟩
  · exact here last

/-- Outside quotes and within them, what the cleaner writes is tidy. -/
theorem tidy_cleanFrom (row : List Char) :
    (∀ last skipped, Tidy last false (cleanFrom (.plain last skipped) row)) ∧
      ∀ last, Tidy last true (cleanFrom .quoted row) := by
  induction row with
  | nil => exact ⟨fun _ _ => trivial, fun _ => trivial⟩
  | cons c rest inductionHypothesis =>
    obtain ⟨plain, quoted⟩ := inductionHypothesis
    constructor
    · intro last skipped
      by_cases blank : isBlank c = true
      · rw [cleanFrom_blank blank]
        exact plain last true
      · have solid := Bool.eq_false_iff.mpr blank
        by_cases quote : c = '"'
        · rw [quote, cleanFrom_quote]
          exact tidy_gap_append rfl (quoted (some '"'))
        · rw [cleanFrom_solid solid quote]
          refine tidy_gap_append solid ?_
          rw [beq_eq_false_iff_ne.mpr quote]
          exact plain (some c) false
    · intro last
      rw [cleanFrom]
      by_cases noise : c = '\r'
      · rw [if_pos noise]
        exact quoted last
      · rw [if_neg noise]
        refine ⟨noise, ?_⟩
        by_cases quote : c = '"'
        · rw [if_pos quote, quote]
          exact plain (some '"') false
        · rw [if_neg quote, beq_eq_false_iff_ne.mpr quote]
          exact quoted (some c)

/-- The cleaner writes nothing but single spaces that it did not read. -/
theorem mem_cleanFrom {c : Char} {region : Region} {row : List Char}
    (member : c ∈ cleanFrom region row) : c = ' ' ∨ c ∈ row := by
  induction row generalizing region with
  | nil => exact absurd member List.not_mem_nil
  | cons first rest inductionHypothesis =>
    have later {region : Region} (among : c ∈ cleanFrom region rest) :
        c = ' ' ∨ c ∈ first :: rest :=
      (inductionHypothesis among).imp_right (List.mem_cons_of_mem first)
    have written {region : Region} (among : c ∈ first :: cleanFrom region rest) :
        c = ' ' ∨ c ∈ first :: rest := by
      rcases List.mem_cons.mp among with rfl | behind
      · exact Or.inr List.mem_cons_self
      · exact later behind
    cases region with
    | plain last skipped =>
      rw [cleanFrom] at member
      split at member
      · exact later member
      · rcases List.mem_append.mp member with space | among
        · unfold gap at space
          split at space
          · exact Or.inl (List.mem_singleton.mp space)
          · exact absurd space List.not_mem_nil
        · exact written among
    | quoted =>
      rw [cleanFrom] at member
      split at member
      · exact later member
      · exact written member

theorem canonicalRow_cleanLine {line : List Char} (sameLine : '\n' ∉ line)
    (filled : cleanLine line ≠ []) : CanonicalRow (cleanLine line) := by
  have tidy : Tidy [].getLast? (endsQuoted []) (cleanLine line) :=
    (tidy_cleanFrom line).1 none false
  have each := tidy_iff.mp tidy
  refine ⟨filled, fun member => ?_, fun member => ?_, fun before c after shape outside blank => ?_⟩
  · obtain ⟨before, after, shape⟩ := List.append_of_mem member
    have noise := each before '\r' after shape
    unfold TidyAt at noise
    split at noise
    · exact noise rfl
    · exact absurd (noise (by decide)).1 (by decide)
  · rcases mem_cleanFrom member with space | among
    · exact absurd space (by decide)
    · exact sameLine among
  · have there := each before c after shape
    rw [List.nil_append, outside] at there
    obtain ⟨space, previous, isLast, next, isNext, needed⟩ := there blank
    exact ⟨space, previous, isLast, next, isNext, (solid_of_needsSeparator needed).1,
      (solid_of_needsSeparator needed).2, needed⟩

/-! ### The cleaner keeps canonical rows -/

/-- After a blank, the cleaner writes the space that is needed and goes on as if there had been
no blank, whatever stood in front of it. -/
theorem cleanFrom_eq_gap_append {c : Char} (solid : isBlank c = false) (last other : Option Char)
    (skipped : Bool) (rest : List Char) :
    cleanFrom (.plain last skipped) (c :: rest) =
      gap last skipped c ++ cleanFrom (.plain other false) (c :: rest) := by
  rw [cleanFrom, cleanFrom, if_neg (Bool.eq_false_iff.mp solid),
    if_neg (Bool.eq_false_iff.mp solid)]
  rfl

/-- Outside quotes and within them, the cleaner keeps what is tidy. -/
theorem cleanFrom_of_tidy (row : List Char) :
    (∀ last, Tidy last false row → cleanFrom (.plain last false) row = row) ∧
      ∀ last, Tidy last true row → cleanFrom .quoted row = row := by
  induction row with
  | nil => exact ⟨fun _ _ => rfl, fun _ _ => rfl⟩
  | cons c rest inductionHypothesis =>
    obtain ⟨plain, quoted⟩ := inductionHypothesis
    constructor
    · rintro last ⟨here, later⟩
      by_cases blank : isBlank c = true
      · obtain ⟨rfl, previous, isLast, next, isNext, needed⟩ := here blank
        obtain ⟨more, rfl⟩ := List.head?_eq_some_iff.mp isNext
        have space : gap last true next = [' '] := by
          unfold gap
          rw [show last = some previous from isLast, Option.any_some, needed]
          rfl
        rw [cleanFrom_blank blank, cleanFrom_eq_gap_append (solid_of_needsSeparator needed).2 last
          (some ' ') true more, space, plain (some ' ') later]
        rfl
      · have solid := Bool.eq_false_iff.mpr blank
        by_cases quote : c = '"'
        · subst quote
          rw [cleanFrom_quote, quoted (some '"') later]
          rfl
        · rw [beq_eq_false_iff_ne.mpr quote] at later
          rw [cleanFrom_solid solid quote, plain (some c) later]
          rfl
    · rintro last ⟨here, later⟩
      rw [cleanFrom, if_neg here]
      by_cases quote : c = '"'
      · subst quote
        rw [if_pos rfl, plain (some '"') later]
      · rw [beq_eq_false_iff_ne.mpr quote] at later
        rw [if_neg quote, quoted (some c) later]

theorem cleanLine_of_canonicalRow {row : List Char} (canonical : CanonicalRow row) :
    cleanLine row = row := by
  have tidy : Tidy [].getLast? (endsQuoted []) row := by
    refine tidy_iff.mpr fun before c after shape => ?_
    rw [List.nil_append]
    unfold TidyAt
    split
    · rintro rfl
      exact canonical.noReturn (shape ▸ List.mem_append_right before List.mem_cons_self)
    · rename_i outside
      intro blank
      obtain ⟨space, previous, isLast, next, isNext, -, -, needed⟩ :=
        canonical.separates before c after shape (Bool.eq_false_iff.mpr outside) blank
      exact ⟨space, previous, isLast, next, isNext, needed⟩
  exact (cleanFrom_of_tidy row).1 none tidy

/-! ### Files -/

namespace CleanSource

theorem canonicalRow_of_mem_cleanRows {source row : List Char} (member : row ∈ cleanRows source) :
    CanonicalRow row := by
  obtain ⟨among, filled⟩ := List.mem_filter.mp member
  obtain ⟨line, isLine, rfl⟩ := List.mem_map.mp among
  refine canonicalRow_cleanLine (lineFeed_not_mem_sourceLines source line isLine) fun empty => ?_
  rw [empty] at filled
  exact absurd filled (by decide)

/-- Cleaning yields canonical texts. -/
theorem canonical_text_ofSource (source : String) : Canonical (ofSource source).text :=
  ⟨cleanRows source.toList, text_ofSource source, fun _ => canonicalRow_of_mem_cleanRows⟩

/-- The lines of a canonical text are its rows. -/
theorem sourceLines_joinLines {rows : List (List Char)}
    (canonical : ∀ row ∈ rows, CanonicalRow row) : sourceLines (joinLines rows) = rows := by
  unfold sourceLines
  cases rows with
  | nil => rfl
  | cons row more =>
    have noFeed : ∀ other ∈ row :: more, '\n' ∉ other :=
      fun other member => (canonical other member).noFeed
    rw [splitLines_joinLines (List.cons_ne_nil row more) noFeed]
    exact linesOfRows_eq_self (fun row member => (canonical row member).noReturn)
      fun row member => (canonical row member).filled

theorem rowsOf_joinLines {rows : List (List Char)}
    (canonical : ∀ row ∈ rows, CanonicalRow row) :
    rowsOf (joinLines rows) = (rows.zipIdx 1).map fun entry => (entry.1, UInt32.ofNat entry.2) := by
  have same : rows.map cleanLine = rows :=
    (List.map_congr_left fun row member => cleanLine_of_canonicalRow (canonical row member)).trans
      (List.map_id rows)
  have kept : (rows.zipIdx 1).filter (fun entry => !entry.1.isEmpty) = rows.zipIdx 1 := by
    refine List.filter_eq_self.mpr fun entry member => ?_
    have filled := (canonical entry.1 (List.fst_mem_of_mem_zipIdx member)).filled
    rw [List.isEmpty_eq_false_iff.mpr filled]
    rfl
  unfold rowsOf
  rw [sourceLines_joinLines canonical, same, kept]

/-- The rows of a canonical text are numbered one after the other. -/
theorem lineNumbers_of_canonicalRows {text : String} {rows : List (List Char)}
    (shape : text.toList = joinLines rows) (canonical : ∀ row ∈ rows, CanonicalRow row) :
    (ofSource text).lineNumbers = (rows.zipIdx 1).map fun entry => UInt32.ofNat entry.2 := by
  show (rowsOf text.toList).map Prod.snd = _
  rw [shape, rowsOf_joinLines canonical, List.map_map]
  rfl

/-- A canonical text is its own cleaned text. -/
theorem text_ofSource_of_canonical {text : String} (canonical : Canonical text) :
    (ofSource text).text = text := by
  obtain ⟨rows, shape, each⟩ := canonical
  have firsts : (rowsOf text.toList).map Prod.fst = rows := by
    rw [shape, rowsOf_joinLines each, List.map_map]
    exact List.zipIdx_map_fst 1 rows
  show String.ofList (joinLines ((rowsOf text.toList).map Prod.fst)) = text
  rw [firsts, ← shape, String.ofList_toList]

/-- Every row of a canonical text is the source line of the same number. -/
theorem sourceLine_of_canonical {text : String} (canonical : Canonical text) {row : UInt32}
    (first : 1 ≤ row) (last : row.toNat ≤ (ofSource text).lineCount) :
    (ofSource text).sourceLine row = row := by
  obtain ⟨rows, shape, each⟩ := canonical
  have numbers := lineNumbers_of_canonicalRows shape each
  have notZero : row ≠ 0 := by
    rintro rfl
    exact absurd first (by decide)
  have positive : 1 ≤ row.toNat := first
  have found : (ofSource text).lineNumbers[row.toNat - 1]? = some row := by
    unfold lineCount at last
    rw [numbers, List.length_map, List.length_zipIdx] at last
    have bound : row.toNat - 1 < rows.length := by omega
    have count : 1 + (row.toNat - 1) = row.toNat := by omega
    rw [numbers, List.getElem?_map, List.getElem?_zipIdx, List.getElem?_eq_getElem bound]
    show some (UInt32.ofNat (1 + (row.toNat - 1))) = some row
    rw [count, UInt32.ofNat_toNat]
  unfold sourceLine
  rw [if_neg notZero, found]

/-- The texts that cleaning yields are the canonical ones. A canonical text is its own cleaned
text, line by line, and so cleaning twice is cleaning once. -/
theorem canonical_iff_cleaned :
    (∀ source : String, Canonical (ofSource source).text) ∧
    (∀ text : String, Canonical text → (ofSource text).text = text ∧
      ∀ row : UInt32, 1 ≤ row → row.toNat ≤ (ofSource text).lineCount →
        (ofSource text).sourceLine row = row) ∧
    (∀ text : String, Canonical text ↔ ∃ source, (ofSource source).text = text) ∧
    ∀ source : String, (ofSource (ofSource source).text).text = (ofSource source).text := by
  refine ⟨canonical_text_ofSource, fun text canonical => ?_, fun text => ?_, fun source => ?_⟩
  · exact ⟨text_ofSource_of_canonical canonical,
      fun row first last => sourceLine_of_canonical canonical first last⟩
  · constructor
    · intro canonical
      exact ⟨text, text_ofSource_of_canonical canonical⟩
    · rintro ⟨source, rfl⟩
      exact canonical_text_ofSource source
  · exact text_ofSource_of_canonical (canonical_text_ofSource source)

end CleanSource

end HLang
