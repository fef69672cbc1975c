/-
This file proves that the layout of a file leaves no trace in its cleaned text. Layout is changed by
edits: some put other blanks where blanks were, some put blanks where they separate nothing, some
put carriage returns into a literal, and some put in lines that are blank.

An edit within a row leaves the cleaner where the original would have left it, because what the
cleaner does with the text behind an edit depends on the text in front only through the region in
which that ends. So the cleaned row stays the same. Blank lines change the numbers of the lines
behind them and nothing else.
-/

import HLang.Proofs.Source.Canonical
import Mathlib.Logic.Relation

namespace HLang

/-! ### Edits -/

/-- An edit of one row. Blanks are put in outside quotes only, and carriage returns only within. -/
inductive RowEdit : List Char → List Char → Prop where
  | respace (before gap other after : List Char) (outside : endsQuoted before = false)
      (filled : gap ≠ []) (otherFilled : other ≠ []) (blank : ∀ c ∈ gap, isBlank c = true)
      (otherBlank : ∀ c ∈ other, isBlank c = true) :
      RowEdit (before ++ gap ++ after) (before ++ other ++ after)
  | atStart (gap row : List Char) (blank : ∀ c ∈ gap, isBlank c = true) :
      RowEdit row (gap ++ row)
  | atEnd (row gap : List Char) (outside : endsQuoted row = false)
      (blank : ∀ c ∈ gap, isBlank c = true) : RowEdit row (row ++ gap)
  | between (before : List Char) (previous : Char) (gap : List Char) (next : Char)
      (after : List Char) (outside : endsQuoted (before ++ [previous]) = false)
      (solid : isBlank previous = false) (nextSolid : isBlank next = false)
      (apart : needsSeparator previous next = false) (blank : ∀ c ∈ gap, isBlank c = true) :
      RowEdit (before ++ [previous] ++ next :: after) (before ++ [previous] ++ gap ++ next :: after)
  | returns (before after : List Char) (inside : endsQuoted before = true) (count : Nat) :
      RowEdit (before ++ after) (before ++ List.replicate count '\r' ++ after)

/-- An edit within one line of a file. -/
def LineEdit (source other : List Char) : Prop :=
  ∃ front row edited back, RowEdit row edited ∧
    splitLines source = front ++ row :: back ∧ splitLines other = front ++ edited :: back

/-- The other file has one more line, which is blank. -/
def BlankLine (source other : List Char) : Prop :=
  ∃ front row back, (∀ c ∈ row, isBlank c = true) ∧
    splitLines source = front ++ back ∧ splitLines other = front ++ row :: back

/-- An edit of the layout of a file. -/
def Edit (source other : List Char) : Prop :=
  LineEdit source other ∨ BlankLine source other

/-! ### The region behind a text -/

/-- The region behind a character, if there is a region in front of it. -/
def Region.after : Region → Char → Region
  | .plain last _, c =>
    if isBlank c then .plain last true else if c = '"' then .quoted else .plain (some c) false
  | .quoted, c => if c = '"' then .plain (some c) false else .quoted

/-- The region behind a text. -/
def Region.past (region : Region) (text : List Char) : Region :=
  text.foldl after region

/-- What a text is cleaned to depends on the text in front only through the region. -/
theorem cleanFrom_append (region : Region) (before rest : List Char) :
    cleanFrom region (before ++ rest) =
      cleanFrom region before ++ cleanFrom (region.past before) rest := by
  induction before generalizing region with
  | nil => cases region <;> rfl
  | cons c more inductionHypothesis =>
    show _ = _ ++ cleanFrom ((region.after c).past more) rest
    cases region with
    | plain last skipped =>
      rw [List.cons_append, cleanFrom, cleanFrom, Region.after]
      split
      · exact inductionHypothesis _
      · rw [inductionHypothesis, List.append_assoc, List.cons_append]
    | quoted =>
      rw [List.cons_append, cleanFrom, cleanFrom, Region.after]
      split
      · rename_i isReturn
        rw [isReturn, if_neg (by decide)]
        exact inductionHypothesis _
      · rw [inductionHypothesis, List.cons_append]

namespace Region

def isQuoted : Region → Bool
  | plain _ _ => false
  | quoted => true

theorem isQuoted_after (region : Region) (c : Char) :
    (region.after c).isQuoted = (region.isQuoted ^^ c == '"') := by
  by_cases quote : c = '"'
  · rw [quote]
    cases region <;> rfl
  · rw [beq_eq_false_iff_ne.mpr quote, Bool.xor_false]
    cases region with
    | plain last skipped =>
      rw [after, if_neg quote]
      split <;> rfl
    | quoted => rw [after, if_neg quote]

/-- Behind a text, the region is quoted exactly if the quotes in the text leave one open. -/
theorem isQuoted_past {region : Region} {before : List Char} (rest : List Char)
    (here : region.isQuoted = endsQuoted before) :
    (region.past rest).isQuoted = endsQuoted (before ++ rest) := by
  induction rest generalizing region before with
  | nil =>
    rw [List.append_nil]
    exact here
  | cons c more inductionHypothesis =>
    rw [List.append_cons]
    refine inductionHypothesis ?_
    rw [isQuoted_after, endsQuoted_concat, here]

/-- The region of a row behind its first characters. -/
def inRow (before : List Char) : Region :=
  (plain none false).past before

theorem isQuoted_inRow (before : List Char) : (inRow before).isQuoted = endsQuoted before := by
  show _ = endsQuoted ([] ++ before)
  exact isQuoted_past before rfl

theorem inRow_of_inside {before : List Char} (inside : endsQuoted before = true) :
    inRow before = .quoted := by
  rw [← isQuoted_inRow] at inside
  cases region : inRow before with
  | plain last skipped =>
    rw [region] at inside
    cases inside
  | quoted => rfl

theorem inRow_of_outside {before : List Char} (outside : endsQuoted before = false) :
    ∃ last skipped, inRow before = .plain last skipped := by
  rw [← isQuoted_inRow] at outside
  cases region : inRow before with
  | plain last skipped => exact ⟨last, skipped, rfl⟩
  | quoted =>
    rw [region] at outside
    cases outside

/-- Behind a solid character that does not open quotes, no blank was skipped. -/
theorem after_solid {region : Region} {c : Char} (solid : isBlank c = false)
    (outside : (region.after c).isQuoted = false) : region.after c = .plain (some c) false := by
  cases region with
  | plain last skipped =>
    rw [after, solid, if_neg Bool.false_ne_true] at outside ⊢
    split at outside
    · cases outside
    · rename_i unquoted
      rw [if_neg unquoted]
  | quoted =>
    rw [after] at outside ⊢
    split at outside
    · rename_i quote
      rw [if_pos quote]
    · cases outside

theorem inRow_concat {before : List Char} {c : Char} (solid : isBlank c = false)
    (outside : endsQuoted (before ++ [c]) = false) :
    inRow (before ++ [c]) = .plain (some c) false := by
  rw [← isQuoted_inRow] at outside
  unfold inRow past at outside ⊢
  rw [List.foldl_append] at outside ⊢
  exact after_solid solid outside

end Region

/-- What a row is cleaned to behind its first characters. -/
theorem cleanLine_append (before rest : List Char) :
    cleanLine (before ++ rest) = cleanLine before ++ cleanFrom (.inRow before) rest :=
  cleanFrom_append _ _ _

/-! ### Edits and the cleaner -/

/-- Blanks are skipped, all of them together. -/
theorem cleanFrom_gap {gap : List Char} (filled : gap ≠ []) (blank : ∀ c ∈ gap, isBlank c = true)
    (last : Option Char) (skipped : Bool) (rest : List Char) :
    cleanFrom (.plain last skipped) (gap ++ rest) = cleanFrom (.plain last true) rest := by
  obtain ⟨first, more, rfl⟩ := List.exists_cons_of_ne_nil filled
  obtain ⟨here, later⟩ := List.forall_mem_cons.mp blank
  rw [List.cons_append, cleanFrom_blank here, cleanFrom_blanks later]

theorem cleanFrom_of_blank {gap : List Char} (blank : ∀ c ∈ gap, isBlank c = true)
    (last : Option Char) (skipped : Bool) : cleanFrom (.plain last skipped) gap = [] := by
  by_cases empty : gap = []
  · rw [empty, cleanFrom]
  · rw [← List.append_nil gap, cleanFrom_gap empty blank, cleanFrom]

/-- Blanks that separate nothing are skipped as if they were not there. -/
theorem cleanFrom_loose {gap rest : List Char} {last : Option Char}
    (blank : ∀ c ∈ gap, isBlank c = true)
    (loose : ∀ previous ∈ last, ∀ next ∈ rest.head?, needsSeparator previous next = false) :
    cleanFrom (.plain last false) (gap ++ rest) = cleanFrom (.plain last false) rest := by
  by_cases empty : gap = []
  · rw [empty, List.nil_append]
  rw [cleanFrom_gap empty blank]
  cases rest with
  | nil => rfl
  | cons next more =>
    have nothing : HLang.gap last true next = [] := by
      unfold HLang.gap
      cases last with
      | none => rfl
      | some previous => rw [Option.any_some, loose previous rfl next rfl]; rfl
    rw [cleanFrom, cleanFrom, nothing]
    rfl

theorem cleanFrom_returns (count : Nat) (rest : List Char) :
    cleanFrom .quoted (List.replicate count '\r' ++ rest) = cleanFrom .quoted rest := by
  induction count with
  | zero => rfl
  | succ count inductionHypothesis =>
    rw [List.replicate_succ, List.cons_append, cleanFrom, if_pos rfl, inductionHypothesis]

/-- An edit of a row leaves its cleaned text as it is. -/
theorem RowEdit.cleanLine_eq {row edited : List Char} (edit : RowEdit row edited) :
    cleanLine row = cleanLine edited := by
  cases edit with
  | respace before gap other after outside filled otherFilled blank otherBlank =>
    obtain ⟨last, skipped, region⟩ := Region.inRow_of_outside outside
    rw [List.append_assoc, List.append_assoc, cleanLine_append, cleanLine_append, region,
      cleanFrom_gap filled blank, cleanFrom_gap otherFilled otherBlank]
  | atStart gap row blank =>
    exact (cleanFrom_loose blank fun previous none =>
      absurd none (Option.not_mem_none previous)).symm
  | atEnd row gap outside blank =>
    obtain ⟨last, skipped, region⟩ := Region.inRow_of_outside outside
    rw [cleanLine_append, region, cleanFrom_of_blank blank, List.append_nil]
  | between before previous gap next after outside solid nextSolid apart blank =>
    have loose : ∀ other ∈ some previous, ∀ following ∈ (next :: after).head?,
        needsSeparator other following = false := by
      rintro _ ⟨⟩ _ ⟨⟩
      exact apart
    rw [List.append_assoc (before ++ [previous]), cleanLine_append (before ++ [previous]),
      cleanLine_append (before ++ [previous]), Region.inRow_concat solid outside,
      cleanFrom_loose blank loose]
  | returns before after inside count =>
    rw [List.append_assoc, cleanLine_append, cleanLine_append, Region.inRow_of_inside inside,
      cleanFrom_returns]

/-! ### Edits and the cleaned file -/

namespace CleanSource

/-- Cleaning the rows of a file instead of its lines makes at most one empty row more. -/
theorem map_cleanLine_linesOfRows (rows : List (List Char)) :
    rows.map cleanLine = (linesOfRows rows).map cleanLine ∨
      rows.map cleanLine = (linesOfRows rows).map cleanLine ++ [[]] := by
  induction rows with
  | nil => exact Or.inl rfl
  | cons row more inductionHypothesis =>
    cases more with
    | nil =>
      unfold linesOfRows
      split
      · rename_i empty
        rw [List.isEmpty_iff.mp empty]
        exact Or.inr rfl
      · exact Or.inl rfl
    | cons next more =>
      have same : cleanLine row = cleanLine (dropReturn row) := by
        rcases dropReturn_eq_or row with same | lost
        · rw [same]
        · rw [← cleanLine_append_return (dropReturn row), ← lost]
      rw [linesOfRows, List.map_cons, List.map_cons (l := linesOfRows _), same, List.cons_append]
      exact inductionHypothesis.imp (congrArg _) (congrArg _)

/-- The rows of a cleaned file are the cleaned rows of the file, numbered and but for the empty
ones. -/
theorem rowsOf_eq (source : List Char) :
    rowsOf source =
      ((((splitLines source).map cleanLine).zipIdx 1).filter fun entry => !entry.1.isEmpty).map
        fun entry => (entry.1, UInt32.ofNat entry.2) := by
  unfold rowsOf sourceLines
  rcases map_cleanLine_linesOfRows (splitLines source) with same | more
  · rw [same]
  · rw [more, List.zipIdx_append, List.filter_append]
    exact congrArg _ (List.append_nil _).symm

theorem cleanRows_eq (source : List Char) :
    cleanRows source = ((splitLines source).map cleanLine).filter fun row => !row.isEmpty := by
  unfold cleanRows sourceLines
  rcases map_cleanLine_linesOfRows (splitLines source) with same | more
  · rw [same]
  · rw [more, List.filter_append]
    exact (List.append_nil _).symm

/-- An edit within a line changes neither the cleaned lines nor their numbers. -/
theorem rowsOf_eq_of_lineEdit {source other : List Char} (edit : LineEdit source other) :
    rowsOf source = rowsOf other := by
  obtain ⟨front, row, edited, back, rowEdit, rows, otherRows⟩ := edit
  rw [rowsOf_eq, rowsOf_eq, rows, otherRows, List.map_append, List.map_append, List.map_cons,
    List.map_cons, rowEdit.cleanLine_eq]

/-- A blank line is no line of the cleaned file. -/
theorem cleanRows_eq_of_blankLine {source other : List Char} (blankLine : BlankLine source other) :
    cleanRows source = cleanRows other := by
  obtain ⟨front, row, back, blank, rows, otherRows⟩ := blankLine
  have cleaned : cleanLine row = [] := cleanFrom_of_blank blank none false
  have dropped : ([cleanLine row].filter fun row => !row.isEmpty) = [] := by
    rw [cleaned]
    rfl
  rw [cleanRows_eq, cleanRows_eq, rows, otherRows, List.append_cons, List.map_append,
    List.map_append, List.map_append, List.filter_append, List.filter_append, List.filter_append,
    List.map_singleton, dropped, List.append_nil]

theorem cleanRows_eq_of_edit {source other : List Char} (edit : Edit source other) :
    cleanRows source = cleanRows other := by
  rcases edit with within | blankLine
  · rw [← map_fst_rowsOf, ← map_fst_rowsOf, rowsOf_eq_of_lineEdit within]
  · exact cleanRows_eq_of_blankLine blankLine

/-! ### Any number of edits -/

/-- What no single edit changes is not changed by any number of edits, made or taken back. -/
theorem eq_of_edits {Value : Type} {edit : List Char → List Char → Prop} {read : List Char → Value}
    (kept : ∀ source other, edit source other → read source = read other)
    {source other : List Char} (edits : Relation.EqvGen edit source other) :
    read source = read other :=
  congrArg (Quot.lift read kept) (Quot.eqvGen_sound edits)

/-- Reformatting a file leaves its cleaned text as it is. -/
theorem text_eq_of_edits {source other : String}
    (edits : Relation.EqvGen Edit source.toList other.toList) :
    (ofSource source).text = (ofSource other).text := by
  rw [← String.toList_inj, text_ofSource, text_ofSource,
    eq_of_edits (fun _ _ edit => cleanRows_eq_of_edit edit) edits]

/-- Reformatting the lines of a file leaves the numbers of its lines as they are, too. -/
theorem ofSource_eq_of_lineEdits {source other : String}
    (edits : Relation.EqvGen LineEdit source.toList other.toList) :
    ofSource source = ofSource other := by
  unfold ofSource
  rw [eq_of_edits (fun _ _ edit => rowsOf_eq_of_lineEdit edit) edits]

end CleanSource

end HLang
