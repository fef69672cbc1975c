/-
This file relates a text, its rows, the lines of the file it is, and the rows of the cleaned
file. Cutting a text at its line feeds and putting the rows together again are inverse to each
other, as long as there is a row and none of them holds a line feed. Of two texts put end to end,
the last row of the first and the first row of the second become one. The lines of a file are its
rows, but for a carriage return at the end of each and for an empty last row; the rows of the
cleaned file are its cleaned lines, but for the empty ones.
-/

import HLang.Source.Clean

namespace HLang

/-! ### Rows -/

theorem joinLines_singleton (row : List Char) : joinLines [row] = row :=
  List.intercalate_singleton

theorem joinLines_cons_cons (row next : List Char) (more : List (List Char)) :
    joinLines (row :: next :: more) = row ++ '\n' :: joinLines (next :: more) := by
  unfold joinLines
  rw [List.intercalate_cons_cons, List.append_assoc, List.singleton_append]

theorem joinLines_splitLines (text : List Char) : joinLines (splitLines text) = text :=
  List.intercalate_splitOn '\n'

theorem splitLines_joinLines {rows : List (List Char)} (some : rows ≠ [])
    (whole : ∀ row ∈ rows, '\n' ∉ row) : splitLines (joinLines rows) = rows :=
  List.splitOn_intercalate '\n' whole some

theorem lineFeed_not_mem_splitLines (text : List Char) : ∀ row ∈ splitLines text, '\n' ∉ row := by
  induction text with
  | nil =>
    intro row member
    rw [splitLines, List.splitOn_nil, List.mem_singleton] at member
    rw [member]
    exact List.not_mem_nil
  | cons first rest inductionHypothesis =>
    unfold splitLines at inductionHypothesis ⊢
    rw [List.splitOn_cons_eq_if_modifyHead]
    split
    · exact List.forall_mem_cons.mpr ⟨List.not_mem_nil, inductionHypothesis⟩
    · rename_i other
      cases shape : rest.splitOn '\n' with
      | nil => exact absurd shape (List.splitOn_ne_nil '\n' rest)
      | cons row more =>
        rw [shape] at inductionHypothesis
        obtain ⟨here, later⟩ := List.forall_mem_cons.mp inductionHypothesis
        refine List.forall_mem_cons.mpr ⟨fun member => ?_, later⟩
        rcases List.mem_cons.mp member with rfl | among
        · exact other (beq_self_eq_true '\n')
        · exact here among

theorem joinLines_append (upper : List (List Char)) (line head : List Char)
    (lower : List (List Char)) :
    joinLines (upper ++ [line]) ++ joinLines (head :: lower) =
      joinLines (upper ++ (line ++ head) :: lower) := by
  induction upper with
  | nil =>
    rw [List.nil_append, List.nil_append, joinLines_singleton]
    cases lower with
    | nil => rw [joinLines_singleton, joinLines_singleton]
    | cons next lower => rw [joinLines_cons_cons, joinLines_cons_cons, List.append_assoc]
  | cons row more inductionHypothesis =>
    -- Some row comes behind `row` on both sides, and `joinLines_cons_cons` wants to see it.
    obtain ⟨next, rest, shape⟩ := List.exists_cons_of_ne_nil
      (List.append_ne_nil_of_right_ne_nil more (List.cons_ne_nil line []))
    obtain ⟨other, behind, otherShape⟩ := List.exists_cons_of_ne_nil
      (List.append_ne_nil_of_right_ne_nil more (List.cons_ne_nil (line ++ head) lower))
    rw [shape, otherShape] at inductionHypothesis
    rw [List.cons_append, List.cons_append, shape, otherShape, joinLines_cons_cons,
      joinLines_cons_cons, ← inductionHypothesis, List.append_assoc, List.cons_append]

/-- Where two texts meet, the last row of the first and the first row of the second become one. -/
theorem splitLines_append {front back : List Char} {upper lower : List (List Char)}
    {line head : List Char} (frontRows : splitLines front = upper ++ [line])
    (backRows : splitLines back = head :: lower) :
    splitLines (front ++ back) = upper ++ (line ++ head) :: lower := by
  have wholeFront := frontRows ▸ lineFeed_not_mem_splitLines front
  have wholeBack := backRows ▸ lineFeed_not_mem_splitLines back
  have shape : front ++ back = joinLines (upper ++ (line ++ head) :: lower) := by
    rw [← joinLines_append, ← frontRows, ← backRows, joinLines_splitLines, joinLines_splitLines]
  rw [shape]
  refine splitLines_joinLines (List.append_ne_nil_of_right_ne_nil _ (List.cons_ne_nil _ _))
    fun row member feed => ?_
  rcases List.mem_append.mp member with above | among
  · exact wholeFront row (List.mem_append_left _ above) feed
  · rcases List.mem_cons.mp among with rfl | below
    · rcases List.mem_append.mp feed with left | right
      · exact wholeFront line (List.mem_append_right _ List.mem_cons_self) left
      · exact wholeBack head List.mem_cons_self right
    · exact wholeBack row (List.mem_cons_of_mem _ below) feed

theorem splitLines_eq_singleton {row : List Char} (whole : '\n' ∉ row) : splitLines row = [row] :=
  List.splitOn_eq_singleton whole

/-! ### Lines -/

theorem dropReturn_eq_self {row : List Char} (noReturn : '\r' ∉ row) : dropReturn row = row :=
  if_neg fun ends => noReturn (List.mem_of_getLast? ends)

theorem dropReturn_append (row : List Char) : dropReturn (row ++ ['\r']) = row := by
  unfold dropReturn
  rw [List.getLast?_concat, if_pos rfl, List.dropLast_concat]

/-- Losing its carriage return is the one thing that may happen to a row. -/
theorem dropReturn_eq_or (row : List Char) :
    dropReturn row = row ∨ row = dropReturn row ++ ['\r'] := by
  by_cases ends : row.getLast? = some '\r'
  · obtain ⟨front, rfl⟩ := List.getLast?_eq_some_iff.mp ends
    exact Or.inr (by rw [dropReturn_append])
  · exact Or.inl (if_neg ends)

theorem dropReturn_isPrefix (row : List Char) : dropReturn row <+: row := by
  rcases dropReturn_eq_or row with same | lost
  · exact ⟨[], (List.append_nil _).trans same⟩
  · exact ⟨['\r'], lost.symm⟩

/-- The lines of a file are beginnings of its rows. -/
theorem exists_row_of_mem_linesOfRows {rows : List (List Char)} {line : List Char}
    (member : line ∈ linesOfRows rows) : ∃ row ∈ rows, line <+: row := by
  induction rows with
  | nil => exact absurd member List.not_mem_nil
  | cons row more inductionHypothesis =>
    cases more with
    | nil =>
      unfold linesOfRows at member
      split at member
      · exact absurd member List.not_mem_nil
      · rw [List.mem_singleton.mp member]
        exact ⟨row, List.mem_cons_self, List.prefix_rfl⟩
    | cons next more =>
      rcases List.mem_cons.mp member with rfl | among
      · exact ⟨row, List.mem_cons_self, dropReturn_isPrefix row⟩
      · obtain ⟨origin, later, front⟩ := inductionHypothesis among
        exact ⟨origin, List.mem_cons_of_mem row later, front⟩

theorem lineFeed_not_mem_sourceLines (text : List Char) :
    ∀ line ∈ sourceLines text, '\n' ∉ line := by
  intro line member among
  obtain ⟨row, later, front⟩ := exists_row_of_mem_linesOfRows member
  exact lineFeed_not_mem_splitLines text row later (front.subset among)

/-- What does not look at carriage returns that end a row, nor at empty rows, is the same over the
lines of a file and over its rows. -/
theorem flatMap_linesOfRows {Element : Type} (read : List Char → List Element)
    (readReturn : ∀ row, read (row ++ ['\r']) = read row) (readNil : read [] = [])
    (rows : List (List Char)) : (linesOfRows rows).flatMap read = rows.flatMap read := by
  have readRow (row : List Char) : read (dropReturn row) = read row := by
    rcases dropReturn_eq_or row with same | lost
    · rw [same]
    · exact ((congrArg read lost).trans (readReturn _)).symm
  induction rows with
  | nil => rfl
  | cons row more inductionHypothesis =>
    cases more with
    | nil =>
      unfold linesOfRows
      split
      · rename_i empty
        rw [List.isEmpty_iff.mp empty, List.flatMap_singleton, readNil]
        rfl
      · rfl
    | cons next more =>
      rw [linesOfRows, List.flatMap_cons, inductionHypothesis, readRow]
      rfl

/-- Rows without carriage returns are the lines of their file, if the last one is not empty. -/
theorem linesOfRows_eq_self {rows : List (List Char)} (noReturn : ∀ row ∈ rows, '\r' ∉ row)
    (filled : ∀ row ∈ rows, row ≠ []) : linesOfRows rows = rows := by
  induction rows with
  | nil => rfl
  | cons row more inductionHypothesis =>
    obtain ⟨here, later⟩ := List.forall_mem_cons.mp noReturn
    obtain ⟨filledHere, filledLater⟩ := List.forall_mem_cons.mp filled
    cases more with
    | nil => exact if_neg fun empty => filledHere (List.isEmpty_iff.mp empty)
    | cons next more =>
      rw [linesOfRows, dropReturn_eq_self here, inductionHypothesis later filledLater]

/-! ### Sizes -/

theorem length_le_length_joinLines {rows : List (List Char)} {row : List Char}
    (member : row ∈ rows) : row.length ≤ (joinLines rows).length := by
  induction rows with
  | nil => exact absurd member List.not_mem_nil
  | cons first more inductionHypothesis =>
    cases more with
    | nil =>
      obtain rfl := List.mem_singleton.mp member
      exact Nat.le_of_eq (congrArg List.length (joinLines_singleton row)).symm
    | cons next more =>
      rw [joinLines_cons_cons, List.length_append, List.length_cons]
      rcases List.mem_cons.mp member with rfl | among
      · exact Nat.le_add_right _ _
      · have later := inductionHypothesis among
        omega

theorem length_linesOfRows_le (rows : List (List Char)) :
    (linesOfRows rows).length ≤ (joinLines rows).length := by
  induction rows with
  | nil => exact Nat.le_refl 0
  | cons row more inductionHypothesis =>
    cases more with
    | nil =>
      rw [joinLines_singleton]
      unfold linesOfRows
      split
      · exact Nat.zero_le _
      · rename_i filled
        exact List.length_pos_iff.mpr fun empty => filled (List.isEmpty_iff.mpr empty)
    | cons next more =>
      rw [linesOfRows, joinLines_cons_cons, List.length_cons, List.length_append, List.length_cons]
      omega

/-- A file has at most as many lines as characters. -/
theorem length_sourceLines_le (text : List Char) : (sourceLines text).length ≤ text.length := by
  have bound := length_linesOfRows_le (splitLines text)
  rwa [joinLines_splitLines] at bound

theorem length_le_of_mem_sourceLines {text line : List Char} (member : line ∈ sourceLines text) :
    line.length ≤ text.length := by
  obtain ⟨row, isRow, front⟩ := exists_row_of_mem_linesOfRows member
  have bound := length_le_length_joinLines isRow
  rw [joinLines_splitLines] at bound
  exact Nat.le_trans front.length_le bound

/-! ### The rows of the cleaned file -/

namespace CleanSource

/-- The rows of the cleaned file. -/
def cleanRows (source : List Char) : List (List Char) :=
  ((sourceLines source).map cleanLine).filter fun row => !row.isEmpty

/-- What reads nothing from empty rows is the same over the cleaned lines and the rows. -/
theorem flatMap_cleanRows {Element : Type} {read : List Char → List Element}
    (readNil : read [] = []) (source : List Char) :
    (cleanRows source).flatMap read =
      (sourceLines source).flatMap fun line => read (cleanLine line) := by
  unfold cleanRows
  induction sourceLines source with
  | nil => rfl
  | cons line more inductionHypothesis =>
    rw [List.map_cons, List.filter_cons, List.flatMap_cons, ← inductionHypothesis]
    split
    · rfl
    · rename_i dropped
      have empty : cleanLine line = [] := by simpa using dropped
      rw [empty, readNil]
      rfl

theorem map_fst_rowsOf (source : List Char) : (rowsOf source).map Prod.fst = cleanRows source := by
  unfold rowsOf cleanRows
  rw [List.map_map]
  show (((((sourceLines source).map cleanLine).zipIdx 1).filter
    ((fun row : List Char => !row.isEmpty) ∘ Prod.fst)).map Prod.fst) = _
  rw [← List.filter_map, List.zipIdx_map_fst]

theorem text_ofSource (source : String) :
    (ofSource source).text.toList = joinLines (cleanRows source.toList) := by
  unfold ofSource
  rw [String.toList_ofList, map_fst_rowsOf]

end CleanSource

end HLang
