/-
This file proves that checking is blind to layout. Reformatting a file leaves its cleaned text as it
is, so the checks before and after are checks of one text under two line maps: they differ in the
lines they name and in nothing else. If no line was put in or taken out, the line maps are the same,
and so are the checks.
-/

import HLang.Proofs.Check.Recheck
import HLang.Proofs.Source.Reformatting

namespace HLang

namespace Check

/-! ### Lines left out -/

/-- The checks found the same, but for the lines on which they found it. -/
structure SameButLines (check other : Check) : Prop where
  text : check.clean.text = other.clean.text
  tokens : check.tokens.map (Token.onLine fun _ => 0) = other.tokens.map (Token.onLine fun _ => 0)
  entries : check.entries = other.entries
  isAccepted : check.verdict.isAccepted = other.verdict.isAccepted
  verdict : check.verdict.onLine (fun _ => 0) = other.verdict.onLine fun _ => 0

variable {check other another : Check}

theorem SameButLines.symm (same : SameButLines check other) : SameButLines other check :=
  ⟨same.text.symm, same.tokens.symm, same.entries.symm, same.isAccepted.symm, same.verdict.symm⟩

theorem SameButLines.trans (first : SameButLines check other)
    (second : SameButLines other another) : SameButLines check another :=
  ⟨first.text.trans second.text, first.tokens.trans second.tokens,
    first.entries.trans second.entries, first.isAccepted.trans second.isAccepted,
    first.verdict.trans second.verdict⟩

/-- What was found on other lines is the same once all lines are left out. -/
theorem Relined.sameButLines {lines : UInt32 → UInt32} (relined : Relined lines check other) :
    SameButLines check other := by
  refine ⟨relined.text, ?_, relined.entries, relined.isAccepted, ?_⟩
  · rw [relined.tokens, List.map_map]
    rfl
  · rw [relined.verdict]
    cases other.verdict <;> rfl

/-- The check of a cleaned text whose rows are taken for lines. -/
def byRow (text : String) (file : Option String) : Check :=
  ofTokens ⟨text, []⟩ (CleanSource.tokens ⟨text, []⟩ (sourceName file)) (sourceName file)

/-- Every check is one by rows, with each row named by its line. -/
theorem relined_byRow (source : String) (file : Option String) :
    Relined (CleanSource.ofSource source).sourceLine (ofSource source file)
      (byRow (CleanSource.ofSource source).text file) := by
  have row (text : String) (row : UInt32) : (CleanSource.mk text []).sourceLine row = row := by
    unfold CleanSource.sourceLine
    rw [List.getElem?_nil, ite_self]
    rfl
  have text : (CleanSource.ofSource source).text =
    (CleanSource.mk (CleanSource.ofSource source).text []).text := rfl
  refine relined_ofTokens text (fun given => ?_) (sourceName file)
  rw [row]

/-! ### Reformatted files -/

/-- Reformatting a file changes nothing of its check but the lines, and these only if a blank line
was put in or taken out. -/
theorem ofSource_of_edits {source other : String} (file : Option String)
    (edits : Relation.EqvGen Edit source.toList other.toList) :
    SameButLines (ofSource source file) (ofSource other file) ∧
      (Relation.EqvGen LineEdit source.toList other.toList →
        ofSource source file = ofSource other file) := by
  refine ⟨?_, fun lineEdits => ?_⟩
  · have byRows := (relined_byRow source file).sameButLines
    rw [CleanSource.text_eq_of_edits edits] at byRows
    exact byRows.trans (relined_byRow other file).sameButLines.symm
  · unfold ofSource
    rw [CleanSource.ofSource_eq_of_lineEdits lineEdits]

/-- The blanks between two words are replaced, a carriage return is put into a literal that is not
closed, and a blank line is put in front. -/
theorem ofSource_of_edits_mixed :
    Relation.EqvGen LineEdit "If  x\n\"a ".toList "If\u00a0x\n\"a\r ".toList ∧
    Relation.EqvGen Edit "If  x\n\"a ".toList "\t\r\nIf\u00a0x\n\"a\r ".toList ∧
    ofSource "If  x\n\"a " none = ofSource "If\u00a0x\n\"a\r " none ∧
    SameButLines (ofSource "If  x\n\"a " none) (ofSource "\t\r\nIf\u00a0x\n\"a\r " none) := by
  have respaced : LineEdit "If  x\n\"a ".toList "If\u00a0x\n\"a ".toList :=
    ⟨[], _, _, [['"', 'a', ' ']], .respace ['I', 'f'] [' ', ' '] ['\u00a0'] ['x'] (by decide)
      (by decide) (by decide) (List.all_eq_true.mp rfl) (List.all_eq_true.mp rfl), by decide,
      by decide⟩
  have returned : LineEdit "If\u00a0x\n\"a ".toList "If\u00a0x\n\"a\r ".toList :=
    ⟨[['I', 'f', '\u00a0', 'x']], _, _, [], .returns ['"', 'a'] [' '] (by decide) 1, by decide,
      by decide⟩
  have lined : BlankLine "If\u00a0x\n\"a\r ".toList "\t\r\nIf\u00a0x\n\"a\r ".toList :=
    ⟨[], ['\t', '\r'], [['I', 'f', '\u00a0', 'x'], ['"', 'a', '\r', ' ']],
      List.all_eq_true.mp rfl, by decide, by decide⟩
  have within := (Relation.EqvGen.rel _ _ respaced).trans _ _ _ (.rel _ _ returned)
  have whole := (within.mono fun _ _ => Or.inl).trans _ _ _ (.rel _ _ (.inr lined))
  exact ⟨within, whole, (ofSource_of_edits none (within.mono fun _ _ => Or.inl)).2 within,
    (ofSource_of_edits none whole).1⟩

end Check

end HLang
