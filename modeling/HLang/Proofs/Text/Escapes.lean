/-
This file proves that a text written between quotes can be read back. Where one escape ends and the
next begins can be told without looking further, by `readChar_escapeChar`, so different texts are
written differently. And every quote inside is led by a backslash, so the quote that opens a text
can be found from its end: whatever stands in front of it, even something that looks like a text
between quotes, is told apart from it, by `append_space_quoted_inj`.
-/

import HLang.Text.Quoted
import Mathlib.Data.List.Basic

namespace HLang

/-! ### Numbers in base sixteen -/

/-- The value of a digit in base sixteen. -/
def hexDigit (c : Char) : Nat :=
  if c.isDigit then c.toNat - 48 else c.toNat - 87

/-- The number that is written with the given digits in base sixteen. -/
def hexNumber (digits : List Char) : Nat :=
  digits.foldl (fun number c => 16 * number + hexDigit c) 0

theorem hexDigit_digitChar : ∀ digit < 16, hexDigit digit.digitChar = digit := by
  decide

theorem hexNumber_toDigits (number : Nat) : hexNumber (Nat.toDigits 16 number) = number := by
  induction number using Nat.strongRecOn with
  | ind number inductionHypothesis =>
    rw [Nat.toDigits_eq_if (by decide)]
    split
    · rename_i small
      show 16 * 0 + hexDigit number.digitChar = number
      rw [hexDigit_digitChar number small, Nat.zero_add]
    · rename_i large
      have upper := inductionHypothesis (number / 16) (by omega)
      unfold hexNumber at upper ⊢
      rw [List.foldl_concat, upper, hexDigit_digitChar _ (Nat.mod_lt _ (by decide))]
      exact Nat.div_add_mod number 16

theorem digitChar_of_mem_toDigits {number : Nat} {c : Char}
    (member : c ∈ Nat.toDigits 16 number) : ∃ digit < 16, c = digit.digitChar := by
  induction number using Nat.strongRecOn with
  | ind number inductionHypothesis =>
    rw [Nat.toDigits_eq_if (by decide)] at member
    split at member
    · rename_i small
      exact ⟨number, small, List.mem_singleton.mp member⟩
    · rename_i large
      rcases List.mem_append.mp member with upper | last
      · exact inductionHypothesis (number / 16) (by omega) upper
      · exact ⟨number % 16, Nat.mod_lt _ (by decide), List.mem_singleton.mp last⟩

/-- No digit in base sixteen is a quote or a closing brace. -/
theorem digitChar_ne : ∀ digit < 16, digit.digitChar ≠ '"' ∧ digit.digitChar ≠ '\x7d' := by
  decide

/-! ### Reading one character -/

/-- Reads what follows a backslash: the character that is meant, and the text behind it. -/
def readEscape : List Char → Option (Char × List Char)
  | [] => none
  | 'u' :: _ :: rest =>
    some (Char.ofNat (hexNumber (rest.takeWhile (· ≠ '\x7d'))),
      (rest.dropWhile (· ≠ '\x7d')).drop 1)
  | '0' :: rest => some ('\x00', rest)
  | 't' :: rest => some ('\t', rest)
  | 'r' :: rest => some ('\r', rest)
  | 'n' :: rest => some ('\n', rest)
  | c :: rest => some (c, rest)

/-- Reads a character of a text between quotes, and the text behind it. -/
def readChar : List Char → Option (Char × List Char)
  | [] => none
  | c :: rest => if c = '\\' then readEscape rest else some (c, rest)

/-- A character is read back as it was written, whatever follows it. -/
theorem readChar_escapeChar (c : Char) (rest : List Char) :
    readChar (escapeChar c ++ rest) = some (c, rest) := by
  unfold escapeChar
  split_ifs with null tab carriageReturn feed quote backslash hidden
  · rw [null]; rfl
  · rw [tab]; rfl
  · rw [carriageReturn]; rfl
  · rw [feed]; rfl
  · rw [quote]; rfl
  · rw [backslash]; rfl
  · have digits : ∀ digit ∈ Nat.toDigits 16 c.toNat, decide (digit ≠ '\x7d') = true := by
      intro digit member
      obtain ⟨value, small, rfl⟩ := digitChar_of_mem_toDigits member
      exact decide_eq_true (digitChar_ne value small).2
    have written : escapeCode c ++ rest =
        '\\' :: 'u' :: '\x7b' :: (Nat.toDigits 16 c.toNat ++ '\x7d' :: rest) := by
      simp [escapeCode]
    rw [written]
    show some (Char.ofNat (hexNumber (List.takeWhile _ _)), (List.dropWhile _ _).drop 1) = _
    rw [List.takeWhile_append_of_pos digits, List.dropWhile_append_of_pos digits]
    show some (Char.ofNat (hexNumber (Nat.toDigits 16 c.toNat ++ [])), rest) = _
    rw [List.append_nil, hexNumber_toDigits, Char.ofNat_toNat]
  · show (if c = '\\' then readEscape rest else some (c, rest)) = _
    rw [if_neg backslash]

/-- The escape of a character ends where it ends, whatever follows. -/
theorem escapeChar_append_inj {c other : Char} {rest behind : List Char}
    (same : escapeChar c ++ rest = escapeChar other ++ behind) : c = other ∧ rest = behind := by
  have read := readChar_escapeChar c rest
  rw [same, readChar_escapeChar] at read
  obtain ⟨rfl, rfl⟩ := Prod.mk.inj (Option.some.inj read)
  exact ⟨rfl, rfl⟩

/-! ### Quotes inside a text -/

/-- Every quote of the text is led by a backslash. -/
def QuotesLed (text : List Char) : Prop :=
  ∀ before after, text = before ++ '"' :: after → before.getLast? = some '\\'

theorem quotesLed_of_not_mem {text : List Char} (unquoted : '"' ∉ text) : QuotesLed text :=
  fun before _ shape => absurd (shape ▸ List.mem_append_right before List.mem_cons_self) unquoted

theorem QuotesLed.append {front back : List Char} (frontLed : QuotesLed front)
    (backLed : QuotesLed back) : QuotesLed (front ++ back) := by
  intro before after shape
  rcases List.append_eq_append_iff.mp shape with ⟨middle, rfl, later⟩ | ⟨middle, rfl, later⟩
  · have led := backLed middle after later
    rw [List.getLast?_append, led]
    rfl
  · cases middle with
    | nil =>
      -- The second part would start with a quote that nothing leads.
      exact absurd (backLed [] after later.symm) (by decide)
    | cons c middle =>
      obtain ⟨rfl, -⟩ := List.cons.inj later
      exact frontLed before middle rfl

theorem quotesLed_escapeChar (c : Char) : QuotesLed (escapeChar c) := by
  by_cases quote : c = '"'
  · subst quote
    intro before after shape
    have form : escapeChar '"' = ['\\', '"'] := by decide
    rw [form] at shape
    rcases before with _ | ⟨first, _ | ⟨second, before⟩⟩
    · cases shape
    · obtain ⟨rfl, -⟩ := List.cons.inj shape
      rfl
    · exact absurd (congrArg List.length shape) (by simp)
  · refine quotesLed_of_not_mem ?_
    unfold escapeChar
    split_ifs with null tab carriageReturn feed backslash hidden
    · decide
    · decide
    · decide
    · decide
    · decide
    · intro member
      rcases List.mem_append.mp member with front | last
      · rcases List.mem_append.mp front with led | digits
        · exact absurd led (by decide)
        · obtain ⟨digit, small, same⟩ := digitChar_of_mem_toDigits digits
          exact (digitChar_ne digit small).1 same.symm
      · exact absurd last (by decide)
    · exact fun member => quote (List.mem_singleton.mp member).symm

/-- Between its quotes, a text has no quote that is not led by a backslash. -/
theorem quotesLed_flatMap_escapeChar (text : List Char) : QuotesLed (text.flatMap escapeChar) := by
  induction text with
  | nil => exact quotesLed_of_not_mem List.not_mem_nil
  | cons c rest inductionHypothesis =>
    rw [List.flatMap_cons]
    exact (quotesLed_escapeChar c).append inductionHypothesis

theorem escapeChar_ne_nil (c : Char) : escapeChar c ≠ [] := by
  intro empty
  have read := readChar_escapeChar c []
  rw [empty] at read
  cases read

/-- Different texts are escaped differently. -/
theorem flatMap_escapeChar_injective :
    Function.Injective fun text : List Char => text.flatMap escapeChar := by
  intro first second same
  replace same : first.flatMap escapeChar = second.flatMap escapeChar := same
  induction first generalizing second with
  | nil =>
    cases second with
    | nil => rfl
    | cons other behind =>
      exact absurd (List.append_eq_nil_iff.mp same.symm).1 (escapeChar_ne_nil other)
  | cons c rest inductionHypothesis =>
    cases second with
    | nil => exact absurd (List.append_eq_nil_iff.mp same).1 (escapeChar_ne_nil c)
    | cons other behind =>
      obtain ⟨rfl, later⟩ := escapeChar_append_inj same
      rw [inductionHypothesis later]

/-! ### Texts between quotes -/

theorem toList_quoted (text : String) :
    (quoted text).toList = '"' :: (text.toList.flatMap escapeChar ++ ['"']) :=
  String.toList_ofList

theorem quoted_injective : Function.Injective quoted := by
  intro first second same
  have lists := congrArg String.toList same
  rw [toList_quoted, toList_quoted] at lists
  exact String.toList_inj.mp
    (flatMap_escapeChar_injective (List.append_cancel_right (List.cons.inj lists).2))

/-- Between its quotes, a text holds no space with another text between quotes behind it. -/
theorem quoted_ne_append_space_quoted (text other : String) (middle : List Char) :
    (quoted text).toList ≠ middle ++ ' ' :: (quoted other).toList := by
  intro same
  rw [toList_quoted, toList_quoted] at same
  cases middle with
  | nil => exact absurd (List.cons.inj same).1 (by decide)
  | cons first middle =>
    have inside : text.toList.flatMap escapeChar ++ ['"'] =
        (middle ++ [' '] ++ '"' :: other.toList.flatMap escapeChar) ++ ['"'] := by
      simpa using (List.cons.inj same).2
    have led := quotesLed_flatMap_escapeChar text.toList _ _ (List.append_cancel_right inside)
    rw [List.getLast?_concat] at led
    exact absurd led (by decide)

/-- A text between quotes that follows a space is found from its end, whatever stands in front of
the space. -/
theorem append_space_quoted_inj {front other : List Char} {text behind : String}
    (same : front ++ ' ' :: (quoted text).toList = other ++ ' ' :: (quoted behind).toList) :
    front = other ∧ text = behind := by
  rcases List.append_eq_append_iff.mp same with ⟨middle, rfl, later⟩ | ⟨middle, rfl, later⟩
  · cases middle with
    | nil =>
      have lists := (List.cons.inj later).2
      exact ⟨(List.append_nil front).symm, quoted_injective (String.toList_inj.mp lists)⟩
    | cons c middle =>
      exact absurd (List.cons.inj later).2 (quoted_ne_append_space_quoted text behind middle)
  · cases middle with
    | nil =>
      have lists := (List.cons.inj later).2
      exact ⟨List.append_nil other, (quoted_injective (String.toList_inj.mp lists)).symm⟩
    | cons c middle =>
      exact absurd (List.cons.inj later).2 (quoted_ne_append_space_quoted behind text middle)

end HLang
