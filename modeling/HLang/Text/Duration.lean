/-
This file writes durations: in the largest of seconds, milliseconds, microseconds and
nanoseconds that is reached, with as many decimals as are not zero.
-/

import HLang.Text.Decimal

namespace HLang

/-- A number with a given count of decimals, as a decimal fraction without trailing zeros. -/
def fraction (value places : Nat) : String :=
  let whole := decimal (value / Nat.pow 10 places)
  let digits := Nat.toDigits 10 (value % Nat.pow 10 places)
  let padded := List.replicate (places - digits.length) '0' ++ digits
  let shown := (padded.reverse.dropWhile (· == '0')).reverse
  if shown.isEmpty then whole else whole ++ "." ++ String.ofList shown

/-- A duration that is given in nanoseconds. -/
def duration (nanoseconds : Nat) : String :=
  if Nat.pow 10 9 ≤ nanoseconds then fraction nanoseconds 9 ++ "s"
  else if Nat.pow 10 6 ≤ nanoseconds then fraction nanoseconds 6 ++ "ms"
  else if Nat.pow 10 3 ≤ nanoseconds then fraction nanoseconds 3 ++ "µs"
  else decimal nanoseconds ++ "ns"

end HLang
