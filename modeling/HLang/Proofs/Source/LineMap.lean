/-
This file proves that the line map of a cleaned file can be read both ways. The numbers of the
kept lines increase, so no two rows come from the same line: the line of a row leads to the text of
that row and of no other. All of it holds as long as the lines of the file can be numbered, that
is, if there are fewer of them than a line number can count.
-/

import HLang.Proofs.Source.Canonical

namespace HLang

namespace CleanSource

/-! ### Rows of the cleaned text -/

theorem length_lineNumbers (source : String) :
    (ofSource source).lineNumbers.length = (cleanRows source.toList).length := by
  show ((rowsOf source.toList).map Prod.snd).length = _
  rw [← map_fst_rowsOf, List.length_map, List.length_map]

theorem length_cleanRows_le (source : List Char) :
    (cleanRows source).length ≤ (sourceLines source).length := by
  have bound := List.length_filter_le (fun row : List Char => !row.isEmpty)
    ((sourceLines source).map cleanLine)
  rwa [List.length_map] at bound

theorem length_le_of_mem_cleanRows {source row : List Char} (member : row ∈ cleanRows source) :
    row.length ≤ source.length := by
  obtain ⟨line, isLine, rfl⟩ := List.mem_map.mp (List.mem_filter.mp member).1
  exact Nat.le_trans (length_cleanLine_le line) (length_le_of_mem_sourceLines isLine)

/-- The rows of the cleaned text are the kept lines, unless none was kept. -/
theorem splitLines_text {source : String} (kept : cleanRows source.toList ≠ []) :
    splitLines (ofSource source).text.toList = cleanRows source.toList := by
  rw [text_ofSource]
  exact splitLines_joinLines kept fun row member => (canonicalRow_of_mem_cleanRows member).noFeed

theorem isEmpty_ofSource_iff {source : String} :
    (ofSource source).isEmpty = true ↔ cleanRows source.toList = [] := by
  have rows := text_ofSource source
  unfold isEmpty
  rw [String.isEmpty_iff, ← String.toList_eq_nil_iff, rows]
  constructor
  · intro empty
    refine List.eq_nil_iff_forall_not_mem.mpr fun row member => ?_
    have bound := length_le_length_joinLines member
    rw [empty] at bound
    exact (canonicalRow_of_mem_cleanRows member).filled
      (List.eq_nil_of_length_eq_zero (Nat.le_zero.mp bound))
  · intro none
    rw [none]
    rfl

/-! ### Numbers of kept lines -/

/-- The numbers of the kept lines increase. -/
theorem pairwise_lineNumbers {source : String}
    (lines : (sourceLines source.toList).length < UInt32.size - 1) :
    (ofSource source).lineNumbers.Pairwise (· < ·) := by
  have numbered : (((sourceLines source.toList).map cleanLine).zipIdx 1).Pairwise
      fun first second => UInt32.ofNat first.2 < UInt32.ofNat second.2 := by
    have increasing := List.pairwise_lt_range' (s := 1) (n := (sourceLines source.toList).length) 1
    rw [← List.length_map (f := cleanLine), ← List.zipIdx_map_snd 1,
      List.pairwise_map] at increasing
    refine increasing.imp_of_mem fun {first second} _ member less => ?_
    have bound := List.snd_lt_add_of_mem_zipIdx member
    rw [List.length_map] at bound
    rw [UInt32.lt_iff_toNat_lt, UInt32.toNat_ofNat_of_lt' (by omega),
      UInt32.toNat_ofNat_of_lt' (by omega)]
    exact less
  show ((rowsOf source.toList).map Prod.snd).Pairwise (· < ·)
  unfold rowsOf
  rw [List.map_map, List.pairwise_map]
  exact numbered.filter _

variable {clean : CleanSource}

/-- The source line of a row that exists. -/
theorem sourceLine_ofNat {index : Nat} (bound : index < clean.lineNumbers.length)
    (small : clean.lineNumbers.length < UInt32.size) :
    clean.sourceLine (UInt32.ofNat (index + 1)) = clean.lineNumbers[index] := by
  have count : (UInt32.ofNat (index + 1)).toNat = index + 1 :=
    UInt32.toNat_ofNat_of_lt' (by omega)
  have notZero : UInt32.ofNat (index + 1) ≠ 0 := by
    intro zero
    rw [zero] at count
    exact absurd count (by simp)
  unfold sourceLine
  rw [if_neg notZero, count, Nat.add_sub_cancel, List.getElem?_eq_getElem bound]

/-- If no two rows come from the same line, the line of a row has the text of that row. -/
theorem sourceLineText_getElem {index : Nat} (bound : index < clean.lineNumbers.length)
    (increasing : clean.lineNumbers.Pairwise (· < ·)) :
    clean.sourceLineText clean.lineNumbers[index] =
      (splitLines clean.text.toList)[index]?.map String.ofList := by
  have first : clean.lineNumbers.idxOf? clean.lineNumbers[index] = some index := by
    refine List.idxOf?_eq_some_iff.mpr ⟨bound, rfl, fun other before same => ?_⟩
    have less := List.pairwise_iff_getElem.mp increasing other index
      (Nat.lt_trans before bound) bound before
    rw [same] at less
    exact absurd less (UInt32.lt_irrefl _)
  unfold sourceLineText
  rw [first, Option.bind_some]

/-! ### Line maps without gaps -/

/-- The line map has a line for each row, in increasing order, and the rows and their characters
can be counted. -/
structure Mapped (clean : CleanSource) : Prop where
  increasing : clean.lineNumbers.Pairwise (· < ·)
  complete : clean.lineNumbers.length = (splitLines clean.text.toList).length
  short : clean.lineNumbers.length < UInt32.size
  narrow : ∀ row ∈ splitLines clean.text.toList, row.length + 1 < UInt32.size

/-- A file that is not too long for its lines and columns to be counted has such a line map. -/
theorem mapped_ofSource {source : String} (characters : source.length < UInt32.size - 1)
    (kept : cleanRows source.toList ≠ []) : (ofSource source).Mapped := by
  have lines := length_sourceLines_le source.toList
  rw [String.length_toList] at lines
  have rows := length_cleanRows_le source.toList
  refine ⟨pairwise_lineNumbers (Nat.lt_of_le_of_lt lines characters), ?_, ?_, fun row member => ?_⟩
  · rw [length_lineNumbers, splitLines_text kept]
  · rw [length_lineNumbers]
    omega
  · rw [splitLines_text kept] at member
    have bound := length_le_of_mem_cleanRows member
    rw [String.length_toList] at bound
    omega

end CleanSource

end HLang
