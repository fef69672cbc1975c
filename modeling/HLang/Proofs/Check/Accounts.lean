/-
This file proves that a diagnosis can be told from its account in one line. The name of the fault
and the line stand in front, up to the first space and the first colon, so accounts that are alike
agree in both; and faults of one name are worded with all that they speak of. Only one account has
a text in its middle that is not quoted, what was expected or is forbidden, and there the quoted
token is found from the end.
-/

import HLang.Proofs.Text.Escapes
import HLang.Symbols

namespace HLang

/-! ### Faults of one name -/

/-- What stands in front of the first mark and what stands behind it can be told from the
whole. -/
theorem append_mark_inj {mark : Char} {front other rest behind : List Char}
    (unmarked : mark ∉ front) (otherUnmarked : mark ∉ other)
    (same : front ++ mark :: rest = other ++ mark :: behind) : front = other ∧ rest = behind := by
  have fronts : front = other := by
    have upTo (text tail : List Char) (absent : mark ∉ text) :
        (text ++ mark :: tail).takeWhile (· ≠ mark) = text := by
      have upToMark : ∀ c ∈ text, decide (c ≠ mark) = true := fun c member =>
        decide_eq_true (ne_of_mem_of_not_mem member absent)
      rw [List.takeWhile_append_of_pos upToMark, List.takeWhile_cons_of_neg (by simp),
        List.append_nil]
    rw [← upTo front rest unmarked, same, upTo other behind otherUnmarked]
  subst fronts
  exact ⟨rfl, (List.cons.inj (List.append_cancel_left same)).2⟩

namespace Fault

/-- If the fault speaks of types, they are types of the language. -/
def NamesTypes : Fault → Prop
  | .typeMismatch expected received =>
    (∃ type : ScalarType, type.name = expected) ∧ ∃ type : ScalarType, type.name = received
  | _ => True

theorem space_not_mem_name (fault : Fault) : ' ' ∉ fault.name.toList := by
  cases fault <;> simp only [name] <;> decide

theorem comma_not_mem_name (type : ScalarType) : ',' ∉ type.name.toList := by
  cases type <;> decide

/-- A message in front of a quoted token is told apart from the token. -/
theorem unexpectedTokenDetailed_inj {token message other otherMessage : String}
    (same : (unexpectedTokenDetailed token message).message =
      (unexpectedTokenDetailed other otherMessage).message) :
    token = other ∧ message = otherMessage := by
  have shape (token message : String) : (unexpectedTokenDetailed token message).message.toList =
      ("unexpected token (".toList ++ (message.toList ++ [')', ':'])) ++
        ' ' :: (quoted token).toList := by
    have mark : "): ".toList = [')', ':', ' '] := by decide
    show ("unexpected token (" ++ message ++ "): " ++ quoted token).toList = _
    simp only [String.toList_append, mark, List.append_assoc, List.cons_append, List.nil_append]
  have lists := congrArg String.toList same
  rw [shape, shape] at lists
  obtain ⟨fronts, tokens⟩ := append_space_quoted_inj lists
  rw [List.append_right_inj, List.append_left_inj] at fronts
  exact ⟨tokens, String.toList_inj.mp fronts⟩

/-- The names of types hold no comma, so the one behind the expected type ends it. -/
theorem typeMismatch_inj {expected other : ScalarType} {received otherReceived : String}
    (same : (typeMismatch expected.name received).message =
      (typeMismatch other.name otherReceived).message) :
    expected.name = other.name ∧ received = otherReceived := by
  have shape (expected received : String) : (typeMismatch expected received).message.toList =
      "types do not match: expected ".toList ++
        (expected.toList ++ ',' :: (" received ".toList ++ received.toList)) := by
    have mark : ", received ".toList = ',' :: " received ".toList := by decide
    show ("types do not match: expected " ++ expected ++ ", received " ++ received).toList = _
    simp only [String.toList_append, mark, List.append_assoc, List.cons_append]
  have lists := congrArg String.toList same
  rw [shape, shape, List.append_right_inj] at lists
  obtain ⟨types, behind⟩ :=
    append_mark_inj (comma_not_mem_name expected) (comma_not_mem_name other) lists
  rw [List.append_right_inj] at behind
  exact ⟨String.toList_inj.mp types, String.toList_inj.mp behind⟩

/-- Faults of the same name that are worded alike are the same. -/
theorem eq_of_message_eq {first second : Fault} (firstTypes : first.NamesTypes)
    (secondTypes : second.NamesTypes) (named : first.name = second.name)
    (worded : first.message = second.message) : first = second := by
  cases first <;> cases second <;>
    try exact absurd named (by simp only [name]; decide)
  case unrecognisedToken.unrecognisedToken token other =>
    rw [quoted_injective ((String.append_right_inj _).mp worded)]
  case unexpectedToken.unexpectedToken token other =>
    rw [quoted_injective ((String.append_right_inj _).mp worded)]
  case unexpectedTokenDetailed.unexpectedTokenDetailed token message other otherMessage =>
    obtain ⟨rfl, rfl⟩ := unexpectedTokenDetailed_inj worded
    rfl
  case unexpectedEndOfInput.unexpectedEndOfInput expected other =>
    rw [(String.append_right_inj _).mp worded]
  case undeclaredIdentifier.undeclaredIdentifier identifier other =>
    rw [quoted_injective ((String.append_right_inj _).mp ((String.append_left_inj _).mp worded))]
  case duplicateDeclaration.duplicateDeclaration identifier other =>
    rw [quoted_injective ((String.append_right_inj _).mp ((String.append_left_inj _).mp worded))]
  case typeMismatch.typeMismatch expected received other otherReceived =>
    obtain ⟨⟨type, rfl⟩, -⟩ := firstTypes
    obtain ⟨⟨otherType, rfl⟩, -⟩ := secondTypes
    obtain ⟨types, rfl⟩ := typeMismatch_inj worded
    rw [types]

end Fault

/-! ### Accounts -/

theorem decimal_injective : Function.Injective decimal := by
  intro first second same
  have digits : Nat.toDigits 10 first = Nat.toDigits 10 second := String.ofList_injective same
  rw [← Nat.ofDigitChars_toDigits (by decide : 1 < 10) (Nat.le_refl 10) (n := first), digits,
    Nat.ofDigitChars_toDigits (by decide) (Nat.le_refl 10)]

theorem colon_not_mem_decimal (value : Nat) : ':' ∉ (decimal value).toList := by
  unfold decimal
  rw [String.toList_ofList]
  exact fun member => absurd
    (Nat.isDigit_of_mem_toDigits (by decide : 0 < 10) (Nat.le_refl 10) member) (by decide)

namespace Diagnosis

theorem toList_text (diagnosis : Diagnosis) :
    diagnosis.text.toList = diagnosis.fault.name.toList ++ ' ' :: ("at line ".toList ++
      ((decimal diagnosis.position.line.toNat).toList ++
        ':' :: ' ' :: diagnosis.fault.message.toList)) := by
  simp [text]

/-- Two diagnoses have the same account exactly if they are of the same fault on the same line. The
texts of which the faults speak may hold anything; only types have to be types of the language. -/
theorem text_eq_iff {first second : Diagnosis} (firstTypes : first.fault.NamesTypes)
    (secondTypes : second.fault.NamesTypes) :
    first.text = second.text ↔
      first.fault = second.fault ∧ first.position.line = second.position.line := by
  constructor
  · intro same
    have lists := congrArg String.toList same
    rw [toList_text, toList_text] at lists
    obtain ⟨names, behind⟩ := append_mark_inj first.fault.space_not_mem_name
      second.fault.space_not_mem_name lists
    rw [List.append_right_inj] at behind
    obtain ⟨lines, messages⟩ :=
      append_mark_inj (colon_not_mem_decimal _) (colon_not_mem_decimal _) behind
    refine ⟨Fault.eq_of_message_eq firstTypes secondTypes (String.toList_inj.mp names)
      (String.toList_inj.mp (List.cons.inj messages).2), ?_⟩
    exact UInt32.toNat_inj.mp (decimal_injective (String.toList_inj.mp lines))
  · rintro ⟨faults, lines⟩
    unfold text
    rw [faults, lines]

/-- A message that ends like a quoted token does not pass for the token. -/
theorem text_ne_of_quoted_message :
    let first : Diagnosis := ⟨.unexpectedTokenDetailed "b" "a\"): \"", ⟨1, 1, "shell"⟩⟩
    let second : Diagnosis := ⟨.unexpectedTokenDetailed "\"): \"b" "a", ⟨1, 1, "shell"⟩⟩
    first.fault.NamesTypes ∧ second.fault.NamesTypes ∧ first.text ≠ second.text := by
  intro first second
  have firstTypes : first.fault.NamesTypes := trivial
  have secondTypes : second.fault.NamesTypes := trivial
  refine ⟨firstTypes, secondTypes, fun same => ?_⟩
  exact absurd ((text_eq_iff firstTypes secondTypes).mp same).1 (by decide)

end Diagnosis

end HLang
