/-
This file reads a rendered diagnostic line by line. None of the five lines that are laid out holds
a line feed, so the rows of the whole text are these five, and an empty one behind the last line
feed. The number of the failing line decides the column of the bars, and the column of the fault
that of the caret. Columns of the rendered lines are counted from zero.

There is a diagnostic exactly if the column of the fault is within the greatest width.
-/

import HLang.Diagnostic
import HLang.Proofs.Session.Worded
import HLang.Proofs.Source.Rows

namespace HLang

/-! ### Lines of a diagnostic -/

theorem oneLine_decimal (value : Nat) : OneLine (decimal value) := by
  unfold OneLine decimal
  rw [String.toList_ofList]
  intro member
  have digit : '\n'.isDigit = true :=
    Nat.isDigit_of_mem_toDigits (by decide : 0 < 10) (Nat.le_refl 10) member
  exact absurd digit (by decide)

theorem oneLine_name (fault : Fault) : OneLine fault.name := by
  unfold Fault.name
  split <;> decide

namespace Diagnosis

variable {diagnosis : Diagnosis}

theorem toList_repeated (c : Char) (times : Nat) :
    (repeated c times).toList = List.replicate times c :=
  String.toList_ofList

theorem oneLine_repeated {c : Char} (solid : c ≠ '\n') (times : Nat) :
    OneLine (repeated c times) := by
  unfold OneLine
  rw [toList_repeated]
  exact fun member => solid (List.eq_of_mem_replicate member).symm

theorem oneLine_heading (tips : ∀ tip, diagnosis.fault.tip? = some tip → OneLine tip) :
    OneLine diagnosis.heading := by
  have name := oneLine_name diagnosis.fault
  unfold heading
  split
  · exact oneLine_append_iff.mpr ⟨by decide, name⟩
  · rename_i tip isTip
    simp only [oneLine_append_iff]
    exact ⟨⟨⟨⟨by decide, name⟩, by decide⟩, tips tip isTip⟩, by decide⟩

theorem oneLine_gutter (diagnosis : Diagnosis) : OneLine diagnosis.gutter :=
  oneLine_append_iff.mpr ⟨oneLine_repeated (by decide) _, by decide⟩

theorem excerpt_of_found {clean : CleanSource} {text : String}
    (found : clean.sourceLineText diagnosis.position.line = some text) :
    diagnosis.excerpt clean = decimal diagnosis.position.line.toNat ++ " | " ++ text := by
  unfold excerpt
  rw [found, Option.getD_some]

theorem oneLine_excerpt {clean : CleanSource} {text : String}
    (found : clean.sourceLineText diagnosis.position.line = some text) (oneLine : OneLine text) :
    OneLine (diagnosis.excerpt clean) := by
  rw [excerpt_of_found found]
  simp only [oneLine_append_iff]
  exact ⟨⟨oneLine_decimal _, by decide⟩, oneLine⟩

/-! ### Diagnostics that are laid out -/

/-- A caret can be led to the columns within the greatest width, and to no others. -/
theorem pointer?_eq_some_iff {below : String} :
    diagnosis.pointer? = some below ↔ diagnosis.position.column.toNat ≤ maxWidth ∧
      diagnosis.gutter ++ " " ++ repeated '-' (diagnosis.position.column.toNat - 1) ++ "^" =
        below := by
  have within : max diagnosis.position.column.toNat 1 ≤ maxWidth ↔
      diagnosis.position.column.toNat ≤ maxWidth := by
    rw [Nat.max_le]
    exact and_iff_left (by decide)
  have dashes : max diagnosis.position.column.toNat 1 - 1 = diagnosis.position.column.toNat - 1 := by
    omega
  simp only [pointer?, within, dashes, Option.ite_none_right_eq_some, Option.some.injEq]

theorem isSome_pointer?_iff :
    diagnosis.pointer?.isSome = true ↔ diagnosis.position.column.toNat ≤ maxWidth := by
  rw [Option.isSome_iff_exists]
  simp only [pointer?_eq_some_iff, exists_and_left, exists_eq', and_true]

/-- There is a diagnostic exactly if its caret can be led to. -/
theorem isSome_render?_iff {clean : CleanSource} :
    (diagnosis.render? clean).isSome = true ↔ diagnosis.position.column.toNat ≤ maxWidth := by
  rw [render?, Option.isSome_map, layout?, Option.isSome_map, isSome_pointer?_iff]

/-- A diagnostic is put together from its lines. -/
theorem render?_eq_some_iff {clean : CleanSource} {rendered : String} :
    diagnosis.render? clean = some rendered ↔ ∃ below, diagnosis.pointer? = some below ∧
      String.join ([diagnosis.heading, "-> " ++ diagnosis.position.file, diagnosis.gutter,
        diagnosis.excerpt clean, below].map (· ++ "\n")) = rendered := by
  rw [render?, layout?, Option.map_map, Option.map_eq_some_iff]
  rfl

theorem oneLine_of_pointer? {below : String} (pointer : diagnosis.pointer? = some below) :
    OneLine below := by
  obtain ⟨-, rfl⟩ := pointer?_eq_some_iff.mp pointer
  simp only [oneLine_append_iff]
  exact ⟨⟨⟨diagnosis.oneLine_gutter, by decide⟩, oneLine_repeated (by decide) _⟩, by decide⟩

/-- Lines that are closed by line feeds are the rows of what they are written to, with an empty row
behind them. -/
theorem splitLines_closed {lines : List String} (oneLine : ∀ line ∈ lines, OneLine line) :
    splitLines (String.join (lines.map (· ++ "\n"))).toList = lines.map String.toList ++ [[]] := by
  have closed : (String.join (lines.map (· ++ "\n"))).toList =
      joinLines (lines.map String.toList ++ [[]]) := by
    induction lines with
    | nil => rfl
    | cons line more inductionHypothesis =>
      obtain ⟨next, rest, shape⟩ := List.exists_cons_of_ne_nil
        (List.append_ne_nil_of_right_ne_nil (more.map String.toList) (List.cons_ne_nil [] []))
      have later := inductionHypothesis fun line member => oneLine line (.tail _ member)
      rw [List.map_cons, List.map_cons, String.join_cons, List.cons_append, shape,
        joinLines_cons_cons, ← shape, ← later, String.toList_append, String.toList_append,
        List.append_assoc]
      rfl
  rw [closed]
  refine splitLines_joinLines (List.append_ne_nil_of_right_ne_nil _ (List.cons_ne_nil _ _))
    fun row member => ?_
  rcases List.mem_append.mp member with among | last
  · obtain ⟨line, isLine, rfl⟩ := List.mem_map.mp among
    exact oneLine line isLine
  · rw [List.mem_singleton.mp last]
    exact List.not_mem_nil

/-- A diagnostic that is laid out has its five lines, each closed by a line feed. -/
theorem splitLines_of_render? {clean : CleanSource} {text rendered : String}
    (tips : ∀ tip, diagnosis.fault.tip? = some tip → OneLine tip)
    (file : OneLine diagnosis.position.file)
    (found : clean.sourceLineText diagnosis.position.line = some text) (oneLine : OneLine text)
    (laidOut : diagnosis.render? clean = some rendered) :
    ∃ below, diagnosis.pointer? = some below ∧ splitLines rendered.toList =
      [diagnosis.heading.toList, ("-> " ++ diagnosis.position.file).toList,
        diagnosis.gutter.toList, (diagnosis.excerpt clean).toList, below.toList, []] := by
  obtain ⟨below, pointer, rfl⟩ := render?_eq_some_iff.mp laidOut
  refine ⟨below, pointer, splitLines_closed fun line member => ?_⟩
  simp only [List.mem_cons, List.not_mem_nil, or_false] at member
  rcases member with rfl | rfl | rfl | rfl | rfl
  · exact oneLine_heading tips
  · exact oneLine_append_iff.mpr ⟨by decide, file⟩
  · exact diagnosis.oneLine_gutter
  · exact oneLine_excerpt found oneLine
  · exact oneLine_of_pointer? pointer

/-! ### Columns of a diagnostic -/

/-- The column of the bars: behind the number of the failing line and a space. -/
def bar (diagnosis : Diagnosis) : Nat :=
  (decimal diagnosis.position.line.toNat).length + 1

/-- The column of the caret: under the failing column of the excerpt. -/
def caret (diagnosis : Diagnosis) : Nat :=
  diagnosis.bar + 2 + (diagnosis.position.column.toNat - 1)

/-- The last three lines of a diagnostic as they are drawn: bars in one column, and in the last line
a caret behind the bar, with a space and nothing but dashes between them. -/
structure Drawn (number text : String) (bar caret : Nat) (above excerpt below : List Char) :
    Prop where
  above_eq : above = List.replicate bar ' ' ++ ['|']
  excerpt_eq : excerpt = (number ++ " | " ++ text).toList
  below_eq : below = List.replicate bar ' ' ++ ['|', ' '] ++
    List.replicate (caret - (bar + 2)) '-' ++ ['^']
  bars : ∀ row ∈ [above, excerpt, below], row[bar]? = some '|'
  caret_eq : below[caret]? = some '^'

/-- The caret stands under what follows the columns in front of the fault. -/
theorem excerpt_at_caret {clean : CleanSource} {text : String} {left right : List Char}
    (found : clean.sourceLineText diagnosis.position.line = some text)
    (shape : text.toList = left ++ right)
    (column : diagnosis.position.column.toNat = left.length + 1) :
    ∃ front, (diagnosis.excerpt clean).toList = front ++ right ∧
      front.length = diagnosis.caret := by
  refine ⟨(decimal diagnosis.position.line.toNat ++ " | ").toList ++ left, ?_, ?_⟩
  · rw [excerpt_of_found found, String.toList_append, shape, List.append_assoc]
  · rw [List.length_append, String.toList_append, List.length_append, String.length_toList, caret,
      column, Nat.add_sub_cancel]
    rfl

/-- What follows a front of a certain length stands in the column of that number. -/
theorem getElem?_append_mark {front rest : List Char} {mark : Char} {column : Nat}
    (width : front.length = column) : (front ++ mark :: rest)[column]? = some mark := by
  rw [List.getElem?_append_right (Nat.le_of_eq width), width, Nat.sub_self,
    List.getElem?_cons_zero]

theorem toList_gutter (diagnosis : Diagnosis) :
    diagnosis.gutter.toList = List.replicate diagnosis.bar ' ' ++ ['|'] := by
  unfold gutter
  rw [String.toList_append, toList_repeated]
  rfl

theorem toList_of_pointer? {below : String} (pointer : diagnosis.pointer? = some below) :
    below.toList = List.replicate diagnosis.bar ' ' ++ ['|', ' '] ++
      List.replicate (diagnosis.caret - (diagnosis.bar + 2)) '-' ++ ['^'] := by
  have dashes : diagnosis.caret - (diagnosis.bar + 2) = diagnosis.position.column.toNat - 1 :=
    Nat.add_sub_cancel_left _ _
  obtain ⟨-, rfl⟩ := pointer?_eq_some_iff.mp pointer
  rw [String.toList_append, String.toList_append, String.toList_append, toList_gutter,
    toList_repeated, dashes, List.append_assoc _ ['|']]
  rfl

/-- The bar of the excerpt stands behind the number of the line and a space. -/
theorem getElem?_bar_excerpt {clean : CleanSource} {text : String}
    (found : clean.sourceLineText diagnosis.position.line = some text) :
    (diagnosis.excerpt clean).toList[diagnosis.bar]? = some '|' := by
  have shape : (diagnosis.excerpt clean).toList =
      ((decimal diagnosis.position.line.toNat).toList ++ [' ']) ++ '|' :: ' ' :: text.toList := by
    rw [excerpt_of_found found, String.toList_append, String.toList_append, List.append_assoc,
      List.append_assoc]
    rfl
  rw [shape]
  refine getElem?_append_mark ?_
  rw [List.length_append, String.length_toList]
  rfl

/-- A diagnosis whose line has a text is drawn with its bars and its caret in their columns. -/
theorem drawn {clean : CleanSource} {text below : String}
    (found : clean.sourceLineText diagnosis.position.line = some text)
    (pointer : diagnosis.pointer? = some below) :
    Drawn (decimal diagnosis.position.line.toNat) text diagnosis.bar diagnosis.caret
      diagnosis.gutter.toList (diagnosis.excerpt clean).toList below.toList := by
  have blanks : (List.replicate diagnosis.bar ' ').length = diagnosis.bar := List.length_replicate
  have below_eq := toList_of_pointer? pointer
  refine ⟨diagnosis.toList_gutter, congrArg String.toList (excerpt_of_found found), below_eq, ?_, ?_⟩
  · rw [List.forall_mem_cons, List.forall_mem_cons, List.forall_mem_singleton, toList_gutter,
      below_eq, List.append_assoc, List.append_assoc]
    exact ⟨getElem?_append_mark blanks, getElem?_bar_excerpt found, getElem?_append_mark blanks⟩
  · rw [below_eq]
    refine getElem?_append_mark ?_
    have room : diagnosis.bar + 2 ≤ diagnosis.caret := Nat.le_add_right _ _
    rw [List.length_append, List.length_append, blanks, List.length_replicate]
    exact Nat.add_sub_of_le room

end Diagnosis

end HLang
