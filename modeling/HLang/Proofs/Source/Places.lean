/-
This file reads places off the text in front of them. The row of a place is counted by the rows of
that text, and its column by the last one of them, because nothing but a line feed opens a row. So
the text in front of a place decides where it stands, and a place further on in the text stands
further on in the file: on a later line, or on the same line and not before it.
-/

import HLang.Proofs.Source.LineMap
import HLang.Token.Cursor

namespace HLang

/-! ### The last row of a text -/

/-- The rows of a text above its last one. -/
def rowsAbove (text : List Char) : List (List Char) :=
  (splitLines text).dropLast

/-- The last row of a text. -/
def lastRow (text : List Char) : List Char :=
  (splitLines text).getLast (List.splitOn_ne_nil '\n' text)

theorem splitLines_eq_concat (text : List Char) :
    splitLines text = rowsAbove text ++ [lastRow text] :=
  (List.dropLast_concat_getLast (List.splitOn_ne_nil '\n' text)).symm

theorem rows_of_concat {text line : List Char} {upper : List (List Char)}
    (rows : splitLines text = upper ++ [line]) : rowsAbove text = upper ∧ lastRow text = line := by
  rw [splitLines_eq_concat] at rows
  obtain ⟨above, last⟩ := List.append_inj' rows rfl
  exact ⟨above, List.singleton_inj.mp last⟩

/-- What holds no line feed goes on in the same row. -/
theorem rows_append {more : List Char} (sameRow : '\n' ∉ more) (text : List Char) :
    rowsAbove (text ++ more) = rowsAbove text ∧ lastRow (text ++ more) = lastRow text ++ more :=
  rows_of_concat (splitLines_append (splitLines_eq_concat text) (splitLines_eq_singleton sameRow))

/-- A line feed opens an empty row. -/
theorem rows_lineFeed (text : List Char) :
    rowsAbove (text ++ ['\n']) = rowsAbove text ++ [lastRow text] ∧
      lastRow (text ++ ['\n']) = [] := by
  refine rows_of_concat ?_
  rw [← splitLines_eq_concat]
  exact List.splitOn_append_cons_self text []

/-- The rows of a text, seen from a place in it. -/
theorem splitLines_at (before after : List Char) :
    ∃ head lower, splitLines after = head :: lower ∧
      splitLines (before ++ after) = rowsAbove before ++ (lastRow before ++ head) :: lower := by
  obtain ⟨head, lower, shape⟩ := List.exists_cons_of_ne_nil (List.splitOn_ne_nil '\n' after)
  exact ⟨head, lower, shape, splitLines_append (splitLines_eq_concat before) shape⟩

/-! ### Places -/

namespace Place

/-- The place is the one behind the text. -/
structure Behind (place : Place) (text : List Char) : Prop where
  row : place.row = (rowsAbove text).length + 1
  column : place.column = (lastRow text).length + 1

variable {place : Place} {text : List Char}

theorem behind_start : Behind start [] := ⟨rfl, rfl⟩

theorem Behind.after (behind : Behind place text) (c : Char) :
    Behind (place.after c) (text ++ [c]) := by
  unfold Place.after
  by_cases feed : c = '\n'
  · obtain ⟨above, last⟩ := rows_lineFeed text
    rw [if_pos feed, feed]
    refine ⟨?_, by rw [last]; rfl⟩
    rw [above, List.length_append, List.length_singleton, behind.row]
  · obtain ⟨above, last⟩ :=
      rows_append (fun member => feed (List.mem_singleton.mp member).symm) text
    rw [if_neg feed]
    refine ⟨by rw [above]; exact behind.row, ?_⟩
    rw [last, List.length_append, List.length_singleton, behind.column]

theorem Behind.past (behind : Behind place text) (more : List Char) :
    Behind (place.past more) (text ++ more) := by
  induction more generalizing place text with
  | nil => rwa [List.append_nil]
  | cons c more inductionHypothesis =>
    rw [List.append_cons]
    exact inductionHypothesis (behind.after c)

/-- The place behind a text, read from its start. -/
theorem behind_past_start (text : List Char) : Behind (start.past text) text :=
  behind_start.past text

theorem past_append (place : Place) (first second : List Char) :
    place.past (first ++ second) = (place.past first).past second :=
  List.foldl_append

end Place

/-! ### Positions -/

/-- The first position does not stand behind the second: it is on an earlier line, or on the same
line and in no later column. -/
def Position.AtOrBefore (first second : Position) : Prop :=
  first.line < second.line ∨ first.line = second.line ∧ first.column ≤ second.column

namespace CleanSource

variable {clean : CleanSource} {before : List Char}

/-- Where a place stands in the file, by the text in front of it. -/
structure StandsAt (clean : CleanSource) (before : List Char) (position : Position) : Prop where
  bound : (rowsAbove before).length < clean.lineNumbers.length
  line : position.line = clean.lineNumbers[(rowsAbove before).length]
  column : position.column.toNat = (lastRow before).length + 1

theorem standsAt_position (mapped : clean.Mapped) (front : before <+: clean.text.toList)
    (file : String) : clean.StandsAt before ((Place.start.past before).position clean file) := by
  obtain ⟨after, whole⟩ := front
  obtain ⟨head, lower, -, rows⟩ := splitLines_at before after
  rw [whole] at rows
  have bound : (rowsAbove before).length < clean.lineNumbers.length := by
    rw [mapped.complete, rows, List.length_append, List.length_cons]
    omega
  have narrow := mapped.narrow (lastRow before ++ head)
    (rows ▸ List.mem_append_right _ List.mem_cons_self)
  rw [List.length_append] at narrow
  obtain ⟨row, column⟩ := Place.behind_past_start before
  refine ⟨bound, ?_, ?_⟩
  · show clean.sourceLine (UInt32.ofNat (Place.start.past before).row) = _
    rw [row]
    exact sourceLine_ofNat bound mapped.short
  · show (UInt32.ofNat (Place.start.past before).column).toNat = _
    rw [column, UInt32.toNat_ofNat_of_lt' (by omega)]

/-- A place further on in the text does not stand before a place in front of it. -/
theorem StandsAt.atOrBefore (mapped : clean.Mapped) {further : List Char} {first second : Position}
    (stands : clean.StandsAt before first) (standsFurther : clean.StandsAt further second)
    (front : before <+: further) : first.AtOrBefore second := by
  obtain ⟨between, rfl⟩ := front
  obtain ⟨head, lower, -, rows⟩ := splitLines_at before between
  have increasing := List.pairwise_iff_getElem.mp mapped.increasing
  cases lower with
  | nil =>
    obtain ⟨above, last⟩ := rows_of_concat rows
    have sameLine : first.line = second.line := by
      rw [stands.line, standsFurther.line]
      simp only [above]
    refine Or.inr ⟨sameLine, UInt32.le_iff_toNat_le.mpr ?_⟩
    rw [stands.column, standsFurther.column, last, List.length_append]
    omega
  | cons next lower =>
    refine Or.inl ?_
    have later : (rowsAbove before).length < (rowsAbove (before ++ between)).length := by
      rw [show rowsAbove (before ++ between) = (splitLines (before ++ between)).dropLast from rfl,
        rows, List.length_dropLast, List.length_append, List.length_cons, List.length_cons]
      omega
    rw [stands.line, standsFurther.line]
    exact increasing _ _ stands.bound standsFurther.bound later

/-- The line on which a place stands has the text of the row in which the place is. -/
theorem StandsAt.sourceLineText (mapped : clean.Mapped) {position : Position} {after : List Char}
    (stands : clean.StandsAt before position) (whole : before ++ after = clean.text.toList) :
    ∃ head lower, splitLines after = head :: lower ∧
      clean.sourceLineText position.line = some (String.ofList (lastRow before ++ head)) := by
  obtain ⟨head, lower, shape, rows⟩ := splitLines_at before after
  refine ⟨head, lower, shape, ?_⟩
  rw [stands.line, sourceLineText_getElem stands.bound mapped.increasing, ← whole, rows,
    List.getElem?_append_right (Nat.le_refl _), Nat.sub_self, List.getElem?_cons_zero,
    Option.map_some]

end CleanSource

end HLang
