/-
This file writes a number in base ten: no sign, no leading zero, and `0` for zero. Line
numbers in diagnostics and durations on the console are written this way.
-/

namespace HLang

/-- The decimal digits of a number. -/
def decimal (value : Nat) : String :=
  String.ofList (Nat.toDigits 10 value)

end HLang
