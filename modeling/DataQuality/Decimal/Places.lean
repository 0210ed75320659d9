import DataQuality.Decimal.Numeral
/-!
# Fixed places — a float with a set number of digits after the point

The exact value is rounded, not its shortest digits, and a half goes to
the even neighbour.
-/

namespace DataQuality

namespace Decimal

/-- `numerator / denominator` rounded to the nearest natural, a half to the
even one. -/
def roundDiv (numerator denominator : Nat) : Nat :=
  let q := numerator / denominator
  match compare (2 * (numerator % denominator)) denominator with
  | .lt => q
  | .gt => q + 1
  | .eq => if q % 2 = 0 then q else q + 1

/-- The numeral of the finite float `x` with `places` digits after the point. -/
def fixedNumeral (places : Nat) (x : Float) : Numeral :=
  let (numerator, denominator) := (Binary.ofFloat x).ratio
  let run := digitsOf (roundDiv (numerator * Nat.pow 10 places) denominator)
  let padded := List.replicate (places + 1 - run.length) '0' ++ run
  ⟨isSigned x, padded.take (padded.length - places), padded.drop (padded.length - places), none⟩

/-- The text of `x` with `places` digits after the point. -/
def fixed (places : Nat) (x : Float) : List Char :=
  if x.isNaN then "NaN".toList
  else if x.isInf then (if isSigned x then "-inf" else "inf").toList
  else (fixedNumeral places x).text

end Decimal

end DataQuality
