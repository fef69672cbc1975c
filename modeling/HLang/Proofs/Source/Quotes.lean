/-
This file describes the cleaner of a line by the regions of the line. Outside quotes it drops the
runs of blanks and keeps all else; within quotes it keeps all but the carriage returns. A text
keeps its quotes if the only carriage returns within them stand at the end of a line, where they
belong to the line end; then nothing that was written between quotes is lost.
-/

import HLang.Proofs.Source.Rows
import HLang.Token.Lexeme

namespace HLang

/-! ### Cleaning by regions -/

theorem cleanFrom_blank {c : Char} (blank : isBlank c = true) (last : Option Char)
    (skipped : Bool) (rest : List Char) :
    cleanFrom (.plain last skipped) (c :: rest) = cleanFrom (.plain last true) rest := by
  rw [cleanFrom, if_pos blank]

theorem cleanFrom_solid {c : Char} (solid : isBlank c = false) (unquoted : c ≠ '"')
    (last : Option Char) (skipped : Bool) (rest : List Char) :
    cleanFrom (.plain last skipped) (c :: rest) =
      gap last skipped c ++ c :: cleanFrom (.plain (some c) false) rest := by
  rw [cleanFrom, if_neg (Bool.eq_false_iff.mp solid), if_neg unquoted]

theorem cleanFrom_quote (last : Option Char) (skipped : Bool) (rest : List Char) :
    cleanFrom (.plain last skipped) ('"' :: rest) =
      gap last skipped '"' ++ '"' :: cleanFrom .quoted rest := by
  rw [cleanFrom, if_neg (by decide), if_pos rfl]

theorem cleanFrom_blanks {front : List Char} (blank : ∀ c ∈ front, isBlank c = true)
    (last : Option Char) (rest : List Char) :
    cleanFrom (.plain last true) (front ++ rest) = cleanFrom (.plain last true) rest := by
  induction front with
  | nil => rfl
  | cons c more inductionHypothesis =>
    obtain ⟨here, later⟩ := List.forall_mem_cons.mp blank
    rw [List.cons_append, cleanFrom_blank here, inductionHypothesis later]

/-- What holds neither blanks nor quotes is kept as it is. -/
theorem cleanFrom_solids {first : Char} {more : List Char}
    (solid : ∀ c ∈ more, isBlank c = false ∧ c ≠ '"') (rest : List Char) :
    cleanFrom (.plain (some first) false) (more ++ rest) =
      more ++ cleanFrom (.plain (some (more.getLastD first)) false) rest := by
  induction more generalizing first with
  | nil => rfl
  | cons c more inductionHypothesis =>
    obtain ⟨⟨here, unquoted⟩, later⟩ := List.forall_mem_cons.mp solid
    rw [List.cons_append, cleanFrom_solid here unquoted, inductionHypothesis later,
      List.getLastD_cons]
    rfl

/-- Up to the closing quote, a quoted region without carriage returns is kept as it is. -/
theorem cleanFrom_quoted_closed {inside : List Char} (unquoted : '"' ∉ inside)
    (noReturn : '\r' ∉ inside) (rest : List Char) :
    cleanFrom .quoted (inside ++ '"' :: rest) =
      inside ++ '"' :: cleanFrom (.plain (some '"') false) rest := by
  induction inside with
  | nil => rw [List.nil_append, cleanFrom, if_neg (by decide), if_pos rfl, List.nil_append]
  | cons c more inductionHypothesis =>
    obtain ⟨here, later⟩ := List.ne_and_not_mem_of_not_mem_cons unquoted
    obtain ⟨kept, keptLater⟩ := List.ne_and_not_mem_of_not_mem_cons noReturn
    rw [List.cons_append, cleanFrom, if_neg kept.symm, if_neg here.symm,
      inductionHypothesis later keptLater, List.cons_append]

/-- A quoted region that is not closed extends to the end of the line. -/
theorem cleanFrom_quoted_open {rest : List Char} (unquoted : '"' ∉ rest) :
    cleanFrom .quoted rest = rest.filter (· ≠ '\r') := by
  induction rest with
  | nil => rfl
  | cons c more inductionHypothesis =>
    obtain ⟨here, later⟩ := List.ne_and_not_mem_of_not_mem_cons unquoted
    rw [cleanFrom]
    by_cases noise : c = '\r'
    · rw [if_pos noise, inductionHypothesis later, List.filter_cons_of_neg (by simp [noise])]
    · rw [if_neg noise, if_neg here.symm, inductionHypothesis later,
        List.filter_cons_of_pos (by simp [noise])]

/-- A carriage return at the end of a row is dropped in every region. -/
theorem cleanFrom_append_return (region : Region) (row : List Char) :
    cleanFrom region (row ++ ['\r']) = cleanFrom region row := by
  induction row generalizing region with
  | nil => cases region <;> rfl
  | cons c more inductionHypothesis =>
    cases region with
    | plain last skipped => simp only [List.cons_append, cleanFrom, inductionHypothesis]
    | quoted => simp only [List.cons_append, cleanFrom, inductionHypothesis]

theorem cleanLine_append_return (row : List Char) : cleanLine (row ++ ['\r']) = cleanLine row :=
  cleanFrom_append_return (.plain none false) row

theorem length_gap_le (last : Option Char) (skipped : Bool) (c : Char) :
    (gap last skipped c).length ≤ skipped.toNat := by
  unfold gap
  split
  · rename_i separates
    rw [(Bool.and_eq_true_iff.mp separates).1]
    exact Nat.le_refl 1
  · exact Nat.zero_le _

/-- Outside quotes the cleaner writes a space only where it has dropped a blank. -/
theorem length_cleanFrom_le (row : List Char) :
    (∀ last skipped, (cleanFrom (.plain last skipped) row).length ≤ row.length + skipped.toNat) ∧
      (cleanFrom .quoted row).length ≤ row.length := by
  induction row with
  | nil => exact ⟨fun _ _ => Nat.zero_le _, Nat.le_refl 0⟩
  | cons c rest inductionHypothesis =>
    obtain ⟨plain, quoted⟩ := inductionHypothesis
    have plainRest := plain (some c) false
    rw [Bool.toNat_false, Nat.add_zero] at plainRest
    constructor
    · intro last skipped
      have space := length_gap_le last skipped c
      by_cases blank : isBlank c = true
      · rw [cleanFrom_blank blank, List.length_cons]
        have dropped := plain last true
        rw [Bool.toNat_true] at dropped
        omega
      · rw [cleanFrom, if_neg blank, List.length_append, List.length_cons, List.length_cons]
        split <;> omega
    · rw [cleanFrom]
      split
      · exact Nat.le_succ_of_le quoted
      · rw [List.length_cons, List.length_cons]
        split <;> omega

theorem length_cleanLine_le (line : List Char) : (cleanLine line).length ≤ line.length :=
  (length_cleanFrom_le line).1 none false

/-! ### Texts that keep their quotes -/

/-- The text is at the end of a line. -/
def EndsLine (text : List Char) : Prop :=
  ∀ next ∈ text.head?, next = '\n'

/-- Whether the text after `c` is within quotes, if the text from `c` on is or is not. -/
def insideAfter (inside : Bool) (c : Char) : Bool :=
  if c = '\n' then false else if c = '"' then !inside else inside

/-- Every carriage return within quotes stands at the end of a line. At the front, the text is
within quotes or not as `inside` says. -/
def KeepsQuotes : Bool → List Char → Prop
  | _, [] => True
  | inside, c :: rest =>
    (inside = true → c = '\r' → EndsLine rest) ∧ KeepsQuotes (insideAfter inside c) rest

/-- A text whose carriage returns all belong to line ends keeps its quotes. -/
theorem keepsQuotes_of_returns {text : List Char}
    (closed : ∀ before after, text = before ++ '\r' :: after → after.head? = some '\n')
    (inside : Bool) : KeepsQuotes inside text := by
  induction text generalizing inside with
  | nil => trivial
  | cons c rest inductionHypothesis =>
    refine ⟨fun _ noise next member => ?_, inductionHypothesis (fun before after shape => ?_) _⟩
    · have feed := closed [] rest (congrArg (· :: rest) noise)
      exact (Option.some.inj (feed.symm.trans member)).symm
    · exact closed (c :: before) after (congrArg (c :: ·) shape)

/-- A line feed ends all quotes. -/
theorem keepsQuotes_append_lineFeed {inside : Bool} {front back : List Char}
    (keeps : KeepsQuotes inside (front ++ '\n' :: back)) :
    KeepsQuotes inside front ∧ KeepsQuotes false back := by
  induction front generalizing inside with
  | nil => exact ⟨trivial, keeps.2⟩
  | cons c more inductionHypothesis =>
    obtain ⟨here, later⟩ := inductionHypothesis keeps.2
    refine ⟨⟨fun within noise next member => keeps.1 within noise next ?_, here⟩, later⟩
    show next ∈ (more ++ '\n' :: back).head?
    rw [List.head?_append, member]
    rfl

theorem keepsQuotes_of_mem_rows {rows : List (List Char)}
    (keeps : KeepsQuotes false (joinLines rows)) : ∀ row ∈ rows, KeepsQuotes false row := by
  induction rows with
  | nil => exact fun row member => absurd member List.not_mem_nil
  | cons row more inductionHypothesis =>
    cases more with
    | nil =>
      rw [joinLines_singleton] at keeps
      exact List.forall_mem_singleton.mpr keeps
    | cons next more =>
      rw [joinLines_cons_cons] at keeps
      obtain ⟨here, later⟩ := keepsQuotes_append_lineFeed keeps
      exact List.forall_mem_cons.mpr ⟨here, inductionHypothesis later⟩

theorem quote_not_mem_of_blank {text : List Char} (blank : ∀ c ∈ text, isBlank c = true) :
    '"' ∉ text :=
  fun member => absurd (blank '"' member) (by decide)

/-- Outside quotes, what holds no quote may hold anything else. -/
theorem keepsQuotes_unquoted_append_iff {front : List Char} (unquoted : '"' ∉ front)
    (back : List Char) : KeepsQuotes false (front ++ back) ↔ KeepsQuotes false back := by
  induction front with
  | nil => exact Iff.rfl
  | cons c more inductionHypothesis =>
    obtain ⟨here, later⟩ := List.ne_and_not_mem_of_not_mem_cons unquoted
    have stays : insideAfter false c = false := by
      unfold insideAfter
      rw [if_neg here.symm, ite_self]
    rw [← inductionHypothesis later, List.cons_append, KeepsQuotes, stays]
    exact and_iff_right fun within => absurd within (by decide)

theorem isStringChar_iff {c : Char} : isStringChar c = true ↔ c ≠ '"' ∧ c ≠ '\n' := by
  unfold isStringChar
  rw [Bool.and_eq_true, bne_iff_ne, bne_iff_ne]

theorem isStringChar_of_not_mem {inside : List Char} (unquoted : '"' ∉ inside)
    (sameLine : '\n' ∉ inside) : ∀ c ∈ inside, isStringChar c = true := by
  refine fun c member => isStringChar_iff.mpr ⟨?_, ?_⟩
  · rintro rfl
    exact unquoted member
  · rintro rfl
    exact sameLine member

theorem insideAfter_of_isStringChar {c : Char} (plain : isStringChar c = true) (inside : Bool) :
    insideAfter inside c = inside := by
  obtain ⟨unquoted, sameLine⟩ := isStringChar_iff.mp plain
  unfold insideAfter
  rw [if_neg sameLine, if_neg unquoted]

/-- A string literal must not hold a carriage return. -/
theorem keepsQuotes_literal_iff {inside : List Char}
    (plain : ∀ c ∈ inside, isStringChar c = true) (back : List Char) :
    KeepsQuotes true (inside ++ '"' :: back) ↔ '\r' ∉ inside ∧ KeepsQuotes false back := by
  induction inside with
  | nil =>
    refine ⟨fun keeps => ⟨List.not_mem_nil, keeps.2⟩, fun keeps => ⟨fun _ noise => ?_, keeps.2⟩⟩
    exact absurd noise (by decide)
  | cons c more inductionHypothesis =>
    obtain ⟨here, later⟩ := List.forall_mem_cons.mp plain
    have stays : insideAfter true c = true := insideAfter_of_isStringChar here true
    have goesOn : ¬ EndsLine (more ++ '"' :: back) := by
      intro ends
      cases more with
      | nil => exact absurd (ends '"' rfl) (by decide)
      | cons second more =>
        exact (isStringChar_iff.mp (later second List.mem_cons_self)).2 (ends second rfl)
    rw [List.cons_append, KeepsQuotes, stays, inductionHypothesis later, List.mem_cons, not_or,
      and_assoc]
    refine and_congr_left' ⟨fun keeps noise => goesOn (keeps rfl noise.symm), ?_⟩
    exact fun other _ noise => absurd noise.symm other

/-- A quote that is not closed may be followed by one carriage return, at the end of the row. -/
theorem filter_return_of_keepsQuotes {rest : List Char} (unquoted : '"' ∉ rest)
    (sameLine : '\n' ∉ rest) (keeps : KeepsQuotes true rest) :
    rest.filter (· ≠ '\r') = rest ∨ rest = rest.filter (· ≠ '\r') ++ ['\r'] := by
  induction rest with
  | nil => exact Or.inl rfl
  | cons c more inductionHypothesis =>
    obtain ⟨here, later⟩ := List.ne_and_not_mem_of_not_mem_cons unquoted
    obtain ⟨noFeed, noFeedLater⟩ := List.ne_and_not_mem_of_not_mem_cons sameLine
    have stays : insideAfter true c = true :=
      insideAfter_of_isStringChar (isStringChar_iff.mpr ⟨here.symm, noFeed.symm⟩) true
    by_cases noise : c = '\r'
    · refine Or.inr ?_
      have ends := keeps.1 rfl noise
      cases more with
      | nil =>
        rw [noise]
        rfl
      | cons second more =>
        rw [ends second rfl] at noFeedLater
        exact absurd List.mem_cons_self noFeedLater
    · rw [List.filter_cons_of_pos (by simp [noise])]
      rcases inductionHypothesis later noFeedLater (stays ▸ keeps.2) with same | lost
      · exact Or.inl (congrArg (c :: ·) same)
      · exact Or.inr (congrArg (c :: ·) lost)

end HLang
