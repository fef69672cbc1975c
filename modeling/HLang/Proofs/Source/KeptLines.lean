/-
This file says which lines of a file its cleaned text has kept, and where. A line is kept exactly if
it holds a character that is no blank: whatever the cleaner drops from such a line, that character
or a quote in front of it stays. The rows of the cleaned text are the kept lines in their order, and
the line map has the number of each. So the map can be read in both directions: from a row to its
line, and from the number of a line to its row, if it has one.

Rows and numbers are filtered out of one list of pairs, so all of this is read off the members of
that list and their order.
-/

import HLang.Proofs.Source.LineMap
import HLang.Proofs.Source.Reformatting

namespace HLang

/-! ### Lines that are kept -/

/-- The line of a file with the given number, counted from one. -/
def numberedLine? (source : List Char) (number : UInt32) : Option (List Char) :=
  if number = 0 then none else (sourceLines source)[number.toNat - 1]?

/-- Nothing is left of a line exactly if it holds only blanks. -/
theorem cleanLine_eq_nil_iff {line : List Char} :
    cleanLine line = [] ↔ ∀ c ∈ line, isBlank c = true := by
  refine ⟨?_, fun blank => cleanFrom_of_blank blank none false⟩
  have blanks (last : Option Char) (skipped : Bool)
      (empty : cleanFrom (.plain last skipped) line = []) : ∀ c ∈ line, isBlank c = true := by
    induction line generalizing last skipped with
    | nil => exact fun _ member => absurd member List.not_mem_nil
    | cons first rest inductionHypothesis =>
      by_cases blank : isBlank first = true
      · rw [cleanFrom_blank blank] at empty
        exact List.forall_mem_cons.mpr ⟨blank, inductionHypothesis last true empty⟩
      · rw [cleanFrom, if_neg blank] at empty
        exact absurd empty (List.append_ne_nil_of_right_ne_nil _ (List.cons_ne_nil _ _))
  exact blanks none false

theorem cleanLine_ne_nil_iff {line : List Char} :
    cleanLine line ≠ [] ↔ ∃ c ∈ line, isBlank c = false := by
  rw [ne_eq, cleanLine_eq_nil_iff]
  simp

namespace CleanSource

/-- The rows of a cleaned file are its cleaned lines that are not empty, with their numbers. -/
theorem mem_rowsOf_iff {source : List Char} (few : (sourceLines source).length < UInt32.size - 1)
    {row : List Char} {number : UInt32} :
    (row, number) ∈ rowsOf source ↔
      ∃ line, numberedLine? source number = some line ∧ cleanLine line = row ∧ row ≠ [] := by
  unfold rowsOf numberedLine?
  constructor
  · intro member
    obtain ⟨⟨kept, count⟩, among, same⟩ := List.mem_map.mp member
    obtain ⟨rfl, rfl⟩ := Prod.mk.inj same
    obtain ⟨numbered, filled⟩ := List.mem_filter.mp among
    obtain ⟨first, found⟩ := List.mk_mem_zipIdx_iff_le_and_getElem?_sub.mp numbered
    rw [List.getElem?_map] at found
    obtain ⟨line, isLine, rfl⟩ := Option.map_eq_some_iff.mp found
    have bound := (List.getElem?_eq_some_iff.mp isLine).1
    -- There are few lines, so a number is not lost when it is written as a word.
    have counted : (UInt32.ofNat count).toNat = count := UInt32.toNat_ofNat_of_lt' (by omega)
    have notZero : UInt32.ofNat count ≠ 0 := by
      intro zero
      rw [zero] at counted
      rw [← counted] at first
      exact absurd first (by decide)
    refine ⟨line, ?_, rfl, by simpa using filled⟩
    rw [if_neg notZero, counted, isLine]
  · rintro ⟨line, found, rfl, filled⟩
    split at found
    · exact absurd found (by simp)
    · rename_i notZero
      have positive : 1 ≤ number.toNat :=
        Nat.one_le_iff_ne_zero.mpr fun zero => notZero (UInt32.toNat_inj.mp zero)
      refine List.mem_map.mpr ⟨(cleanLine line, number.toNat), List.mem_filter.mpr ⟨?_, ?_⟩, ?_⟩
      · refine List.mk_mem_zipIdx_iff_le_and_getElem?_sub.mpr ⟨positive, ?_⟩
        rw [List.getElem?_map, found, Option.map_some]
      · simpa using filled
      · rw [UInt32.ofNat_toNat]

/-! ### Rows and their numbers -/

variable {source : String} {row number : UInt32}

/-- The row with a certain index stands in the cleaned text and in the line map at that index. -/
theorem getElem?_rowsOf {index : Nat} {text : List Char}
    (found : (rowsOf source.toList)[index]? = some (text, number)) :
    (splitLines (ofSource source).text.toList)[index]? = some text ∧
      (ofSource source).lineNumbers[index]? = some number := by
  have rows := map_fst_rowsOf source.toList
  have kept : cleanRows source.toList ≠ [] := by
    intro none
    rw [none, List.map_eq_nil_iff] at rows
    rw [rows] at found
    exact nomatch found
  constructor
  · rw [splitLines_text kept, ← rows, List.getElem?_map, found, Option.map_some]
  · show ((rowsOf source.toList).map Prod.snd)[index]? = _
    rw [List.getElem?_map, found, Option.map_some]

/-- A row of the cleaned text, counted from one, that exists. -/
def HasRow (clean : CleanSource) (row : UInt32) : Prop :=
  1 ≤ row ∧ row.toNat ≤ clean.lineCount

/-- The source line of a row that exists is in the line map at the index of the row. -/
theorem HasRow.getElem?_lineNumbers {clean : CleanSource} (has : clean.HasRow row) :
    clean.lineNumbers[row.toNat - 1]? = some (clean.sourceLine row) := by
  obtain ⟨first, last⟩ := has
  have positive : 1 ≤ row.toNat := first
  have notZero : row ≠ 0 := by
    rintro rfl
    exact absurd first (by decide)
  have bound : row.toNat - 1 < clean.lineNumbers.length :=
    Nat.lt_of_lt_of_le (Nat.sub_one_lt_of_lt positive) last
  unfold sourceLine
  rw [if_neg notZero, List.getElem?_eq_getElem bound]

/-- A row comes from a line that holds more than blanks, and is that line cleaned. -/
theorem HasRow.exists_line (few : (sourceLines source.toList).length < UInt32.size - 1)
    (has : (ofSource source).HasRow row) :
    ∃ line, numberedLine? source.toList ((ofSource source).sourceLine row) = some line ∧
      (∃ c ∈ line, isBlank c = false) ∧
      (splitLines (ofSource source).text.toList)[row.toNat - 1]? = some (cleanLine line) := by
  have numbered := has.getElem?_lineNumbers
  have among : ((rowsOf source.toList).map Prod.snd)[row.toNat - 1]? = some _ := numbered
  rw [List.getElem?_map] at among
  obtain ⟨⟨text, number⟩, found, same⟩ := Option.map_eq_some_iff.mp among
  obtain ⟨line, isLine, rfl, filled⟩ :=
    (mem_rowsOf_iff few).mp (List.mem_of_getElem? found)
  rw [← same]
  exact ⟨line, isLine, cleanLine_ne_nil_iff.mp filled, (getElem?_rowsOf found).1⟩

/-- A line that holds more than blanks has a row. -/
theorem exists_hasRow (few : (sourceLines source.toList).length < UInt32.size - 1)
    {line : List Char} (isLine : numberedLine? source.toList number = some line)
    (solid : ∃ c ∈ line, isBlank c = false) :
    ∃ row, (ofSource source).HasRow row ∧ (ofSource source).sourceLine row = number := by
  obtain ⟨index, found⟩ := List.mem_iff_getElem?.mp
    ((mem_rowsOf_iff few).mpr ⟨line, isLine, rfl, cleanLine_ne_nil_iff.mpr solid⟩)
  have numbered := (getElem?_rowsOf found).2
  have bound : index < (ofSource source).lineNumbers.length :=
    (List.getElem?_eq_some_iff.mp numbered).1
  have small : (ofSource source).lineNumbers.length ≤ (sourceLines source.toList).length := by
    rw [length_lineNumbers]
    exact length_cleanRows_le _
  have counted : (UInt32.ofNat (index + 1)).toNat = index + 1 :=
    UInt32.toNat_ofNat_of_lt' (by omega)
  have has : (ofSource source).HasRow (UInt32.ofNat (index + 1)) := by
    refine ⟨UInt32.le_iff_toNat_le.mpr ?_, ?_⟩
    · rw [counted]
      exact Nat.le_add_left 1 index
    · rw [counted]
      exact bound
  refine ⟨_, has, ?_⟩
  have back := has.getElem?_lineNumbers
  rw [counted, Nat.add_sub_cancel, numbered] at back
  exact (Option.some.inj back).symm

theorem sourceLine_lt_sourceLine (few : (sourceLines source.toList).length < UInt32.size - 1)
    {later : UInt32} (has : (ofSource source).HasRow row) (less : row < later)
    (hasLater : (ofSource source).HasRow later) :
    (ofSource source).sourceLine row < (ofSource source).sourceLine later := by
  obtain ⟨bound, same⟩ := List.getElem?_eq_some_iff.mp has.getElem?_lineNumbers
  obtain ⟨boundLater, sameLater⟩ := List.getElem?_eq_some_iff.mp hasLater.getElem?_lineNumbers
  have before : row.toNat - 1 < later.toNat - 1 := by
    have counts : row.toNat < later.toNat := less
    have first : 1 ≤ row.toNat := has.1
    omega
  rw [← same, ← sameLater]
  exact List.pairwise_iff_getElem.mp (pairwise_lineNumbers few) _ _ bound boundLater before

/-- The line of a row has the text of that row. -/
theorem sourceLineText_sourceLine (few : (sourceLines source.toList).length < UInt32.size - 1)
    (has : (ofSource source).HasRow row) :
    (ofSource source).sourceLineText ((ofSource source).sourceLine row) =
      (splitLines (ofSource source).text.toList)[row.toNat - 1]?.map String.ofList := by
  obtain ⟨bound, same⟩ := List.getElem?_eq_some_iff.mp has.getElem?_lineNumbers
  rw [← same]
  exact sourceLineText_getElem bound (pairwise_lineNumbers few)

/-- A line without a row has no text. -/
theorem sourceLineText_eq_none {clean : CleanSource} (unkept : number ∉ clean.lineNumbers) :
    clean.sourceLineText number = none := by
  unfold sourceLineText
  rw [List.idxOf?_eq_none_iff.mpr unkept, Option.bind_none]

/-- The line map of a file is exact. The lines of the rows increase, and are those lines of the file
that hold more than blanks; each row is its line, cleaned, and is found again by the number of that
line; and no other number leads to a row. -/
theorem lineMap_exact {source : String}
    (few : (sourceLines source.toList).length < UInt32.size - 1) :
    let clean := ofSource source
    (∀ row later, clean.HasRow row → row < later → clean.HasRow later →
      clean.sourceLine row < clean.sourceLine later) ∧
    (∀ number, (∃ row, clean.HasRow row ∧ clean.sourceLine row = number) ↔
      ∃ line, numberedLine? source.toList number = some line ∧ ∃ c ∈ line, isBlank c = false) ∧
    (∀ row, clean.HasRow row → ∃ line,
      numberedLine? source.toList (clean.sourceLine row) = some line ∧
      (splitLines clean.text.toList)[row.toNat - 1]? = some (cleanLine line) ∧
      clean.sourceLineText (clean.sourceLine row) = some (String.ofList (cleanLine line))) ∧
    ∀ number, (∀ row, clean.HasRow row → clean.sourceLine row ≠ number) →
      clean.sourceLineText number = none := by
  intro clean
  refine ⟨fun row later => sourceLine_lt_sourceLine few, fun number => ⟨?_, ?_⟩,
    fun row has => ?_, fun number unmapped => sourceLineText_eq_none fun member => ?_⟩
  · rintro ⟨row, has, rfl⟩
    obtain ⟨line, isLine, solid, -⟩ := has.exists_line few
    exact ⟨line, isLine, solid⟩
  · rintro ⟨line, isLine, solid⟩
    exact exists_hasRow few isLine solid
  · obtain ⟨line, isLine, -, isRow⟩ := has.exists_line few
    refine ⟨line, isLine, isRow, ?_⟩
    rw [sourceLineText_sourceLine few has, isRow, Option.map_some]
  · obtain ⟨entry, among, rfl⟩ := List.mem_map.mp member
    obtain ⟨line, isLine, cleaned, filled⟩ := (mem_rowsOf_iff few).mp among
    obtain ⟨row, has, same⟩ :=
      exists_hasRow few isLine (cleanLine_ne_nil_iff.mp (cleaned ▸ filled))
    exact unmapped row has same

/-- A file with two kinds of line end, a carriage return within a line, a line of blanks and no line
feed at its end: its rows come from the lines 2 and 4, and line 3 has no text. -/
theorem lineMap_exact_mixedLines :
    (sourceLines "\r\nx\ry\n \u00a0\n \" z".toList).length < UInt32.size - 1 ∧
    (ofSource "\r\nx\ry\n \u00a0\n \" z").sourceLine 1 = 2 ∧
    (ofSource "\r\nx\ry\n \u00a0\n \" z").sourceLineText 2 = some "x y" ∧
    (∃ row, (ofSource "\r\nx\ry\n \u00a0\n \" z").HasRow row ∧
      (ofSource "\r\nx\ry\n \u00a0\n \" z").sourceLine row = 4) ∧
    (ofSource "\r\nx\ry\n \u00a0\n \" z").sourceLineText 3 = none := by
  have few : (sourceLines "\r\nx\ry\n \u00a0\n \" z".toList).length < UInt32.size - 1 := by
    decide
  obtain ⟨-, kept, texts, others⟩ := lineMap_exact few
  have first : (ofSource "\r\nx\ry\n \u00a0\n \" z").sourceLine 1 = 2 := by decide
  obtain ⟨line, isLine, -, text⟩ := texts 1 ⟨by decide, by decide⟩
  rw [first] at isLine text
  obtain rfl : ['x', '\r', 'y'] = line := Option.some.inj isLine
  have blank : ∀ c ∈ [' ', '\u00a0'], isBlank c = true := List.all_eq_true.mp rfl
  have fourth : numberedLine? "\r\nx\ry\n \u00a0\n \" z".toList 4 = some [' ', '"', ' ', 'z'] := by
    decide
  refine ⟨few, first, text, (kept 4).mpr ⟨_, fourth, '"', by decide, by decide⟩,
    others 3 fun row has same => ?_⟩
  obtain ⟨line, isLine, c, member, solid⟩ := (kept 3).mp ⟨row, has, same⟩
  obtain rfl : [' ', '\u00a0'] = line := Option.some.inj isLine
  rw [blank c member] at solid
  exact Bool.noConfusion solid

end CleanSource

end HLang
