/-
This file puts one file below another, with a line feed between them, and cleans the whole. Each
line is cleaned by itself, so nothing that is left open at the end of the upper file, be it a
quote or a run of blanks, reaches the lower one: the kept lines of the whole are those of the two
parts. The lines of the lower part are counted on from those of the upper one.

A file that ends with a line feed has one row more than it has lines. The row is empty and is
dropped, so everything here counts rows, which add up where two texts meet.
-/

import HLang.Proofs.Source.LineMap
import HLang.Proofs.Source.Reformatting

namespace HLang

/-! ### Rows of two texts -/

theorem splitLines_append_lineFeed (upper lower : List Char) :
    splitLines (upper ++ '\n' :: lower) = splitLines upper ++ splitLines lower :=
  List.splitOn_append_cons_self upper lower

theorem length_splitLines (text : List Char) :
    (splitLines text).length = text.count '\n' + 1 := by
  induction text with
  | nil => rfl
  | cons first rest inductionHypothesis =>
    unfold splitLines at inductionHypothesis ⊢
    rw [List.splitOn_cons_eq_if_modifyHead, List.count_cons]
    split
    · rw [List.length_cons, inductionHypothesis]
    · rw [List.length_modifyHead, inductionHypothesis, Nat.add_zero]

theorem length_le_length_linesOfRows (rows : List (List Char)) :
    rows.length ≤ (linesOfRows rows).length + 1 := by
  induction rows with
  | nil => exact Nat.zero_le _
  | cons row more inductionHypothesis =>
    cases more with
    | nil => exact Nat.le_add_left 1 _
    | cons next more => exact Nat.succ_le_succ inductionHypothesis

theorem joinLines_append_of_ne_nil {upper lower : List (List Char)} (someUpper : upper ≠ [])
    (someLower : lower ≠ []) :
    joinLines (upper ++ lower) = joinLines upper ++ '\n' :: joinLines lower := by
  obtain ⟨next, rest, rfl⟩ := List.exists_cons_of_ne_nil someLower
  induction upper with
  | nil => exact absurd rfl someUpper
  | cons row more inductionHypothesis =>
    cases more with
    | nil => rw [joinLines_singleton, List.singleton_append, joinLines_cons_cons]
    | cons other more =>
      rw [List.cons_append, List.cons_append, joinLines_cons_cons, joinLines_cons_cons,
        ← List.cons_append, inductionHypothesis (List.cons_ne_nil other more), List.append_assoc,
        List.cons_append]

namespace CleanSource

/-! ### Kept rows -/

/-- The cleaned rows that are not empty, with their numbers from `first` on. -/
def keptRows (first : Nat) (rows : List (List Char)) : List (List Char × Nat) :=
  ((rows.map cleanLine).zipIdx first).filter fun entry => !entry.1.isEmpty

theorem keptRows_append (first : Nat) (upper lower : List (List Char)) :
    keptRows first (upper ++ lower) =
      keptRows first upper ++ keptRows (first + upper.length) lower := by
  unfold keptRows
  rw [List.map_append, List.zipIdx_append, List.filter_append, List.length_map]

/-- Counting from a later number on changes nothing but the numbers. -/
theorem keptRows_add (first lines : Nat) (rows : List (List Char)) :
    keptRows (first + lines) rows =
      (keptRows first rows).map fun entry => (entry.1, entry.2 + lines) := by
  unfold keptRows
  induction rows generalizing first with
  | nil => rfl
  | cons row more inductionHypothesis =>
    rw [List.map_cons, List.zipIdx_cons, List.zipIdx_cons, List.filter_cons, List.filter_cons,
      Nat.add_right_comm, inductionHypothesis]
    split <;> rfl

theorem lt_of_mem_keptRows {first : Nat} {rows : List (List Char)} {entry : List Char × Nat}
    (member : entry ∈ keptRows first rows) : entry.2 < first + rows.length := by
  have bound := List.snd_lt_add_of_mem_zipIdx (List.mem_filter.mp member).1
  rwa [List.length_map] at bound

theorem lineNumbers_ofSource (source : String) :
    (ofSource source).lineNumbers =
      (keptRows 1 (splitLines source.toList)).map fun entry => UInt32.ofNat entry.2 := by
  show (rowsOf source.toList).map Prod.snd = _
  rw [rowsOf_eq, List.map_map]
  rfl

/-! ### One file below another -/

/-- The first file, a line feed, and the second file. -/
def joined (upper lower : String) : String :=
  upper ++ "\n" ++ lower

theorem toList_joined (upper lower : String) :
    (joined upper lower).toList = upper.toList ++ '\n' :: lower.toList := by
  unfold joined
  rw [String.toList_append, String.toList_append, List.append_assoc]
  rfl

theorem cleanRows_joined (upper lower : String) :
    cleanRows (joined upper lower).toList =
      cleanRows upper.toList ++ cleanRows lower.toList := by
  rw [toList_joined, cleanRows_eq, cleanRows_eq, cleanRows_eq, splitLines_append_lineFeed,
    List.map_append, List.filter_append]

theorem lineNumbers_joined (upper lower : String) :
    (ofSource (joined upper lower)).lineNumbers = (ofSource upper).lineNumbers ++
      (keptRows 1 (splitLines lower.toList)).map
        fun entry => UInt32.ofNat (entry.2 + (splitLines upper.toList).length) := by
  rw [lineNumbers_ofSource, lineNumbers_ofSource, toList_joined, splitLines_append_lineFeed,
    keptRows_append, keptRows_add, List.map_append, List.map_map]
  rfl

/-- From one of its rows on, the second file has the rows of the first one, and they come from
lines that are further down by the same number. -/
def Continues (part whole : CleanSource) (rows lines : Nat) : Prop :=
  ∀ index line, part.lineNumbers[index]? = some line →
    ∃ lower, whole.lineNumbers[rows + index]? = some lower ∧ lower.toNat = line.toNat + lines

theorem continues_upper (upper lower : String) :
    Continues (ofSource upper) (ofSource (joined upper lower)) 0 0 := by
  intro index line found
  refine ⟨line, ?_, rfl⟩
  rw [lineNumbers_joined, Nat.zero_add,
    List.getElem?_append_left (List.getElem?_eq_some_iff.mp found).1, found]

/-- The lines of the whole can be counted, so no number of the lower part is lost when it is
counted on from those of the upper part. -/
theorem continues_lower {upper lower : String}
    (few : (sourceLines (joined upper lower).toList).length < UInt32.size - 1) :
    Continues (ofSource lower) (ofSource (joined upper lower))
      (ofSource upper).lineNumbers.length (splitLines upper.toList).length := by
  intro index line found
  have total := length_le_length_linesOfRows (splitLines (joined upper lower).toList)
  rw [toList_joined, splitLines_append_lineFeed, List.length_append] at total
  rw [toList_joined, sourceLines, splitLines_append_lineFeed] at few
  rw [lineNumbers_ofSource, List.getElem?_map] at found
  obtain ⟨entry, isEntry, rfl⟩ := Option.map_eq_some_iff.mp found
  have bound := lt_of_mem_keptRows (List.mem_of_getElem? isEntry)
  refine ⟨UInt32.ofNat (entry.2 + (splitLines upper.toList).length), ?_, ?_⟩
  · rw [lineNumbers_joined, List.getElem?_append_right (Nat.le_add_right _ _),
      Nat.add_sub_cancel_left, List.getElem?_map, isEntry, Option.map_some]
  · rw [UInt32.toNat_ofNat_of_lt' (by omega), UInt32.toNat_ofNat_of_lt' (by omega)]

/-! ### The cleaned text of the whole -/

theorem text_eq_nil_iff {source : String} :
    (ofSource source).text.toList = [] ↔ cleanRows source.toList = [] := by
  rw [← isEmpty_ofSource_iff, isEmpty, String.isEmpty_iff, String.toList_eq_nil_iff]

/-- The cleaned texts of the two parts that are not empty, with a line feed between them. -/
theorem text_joined (upper lower : String) :
    (ofSource (joined upper lower)).text.toList =
      joinLines ([(ofSource upper).text.toList, (ofSource lower).text.toList].filter
        fun text => !text.isEmpty) := by
  rw [text_ofSource, cleanRows_joined]
  by_cases noUpper : cleanRows upper.toList = []
  · rw [noUpper, List.nil_append, text_eq_nil_iff.mpr noUpper, ← text_ofSource]
    by_cases noLower : cleanRows lower.toList = []
    · rw [text_eq_nil_iff.mpr noLower]
      rfl
    · have filled := mt text_eq_nil_iff.mp noLower
      simp [filled, joinLines_singleton]
  · have filledUpper := mt text_eq_nil_iff.mp noUpper
    by_cases noLower : cleanRows lower.toList = []
    · rw [noLower, List.append_nil, text_eq_nil_iff.mpr noLower, ← text_ofSource]
      simp [filledUpper, joinLines_singleton]
    · have filledLower := mt text_eq_nil_iff.mp noLower
      rw [joinLines_append_of_ne_nil noUpper noLower, ← text_ofSource, ← text_ofSource]
      simp [filledUpper, filledLower, joinLines_cons_cons, joinLines_singleton]

end CleanSource

end HLang
