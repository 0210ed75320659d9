/-!
# Binary fractions — a float's exact value

A finite float is `significand * 2 ^ exponent` up to sign. Everything that
chooses decimal digits works on this pair in exact integers.
-/

namespace DataQuality

namespace Decimal

/-- The exact size of a finite float. -/
structure Binary where
  significand : Nat
  exponent : Int
  /-- Whether the next float below is half as far away as the next above,
  as it is at a power of two. -/
  narrowBelow : Bool
  deriving DecidableEq

/-- The exact size of `x`, which must be finite. -/
def Binary.ofFloat (x : Float) : Binary :=
  let field := ((x.toBits >>> 52) &&& 0x7FF).toNat
  let fraction := (x.toBits &&& 0xFFFFFFFFFFFFF).toNat
  if field = 0 then ⟨fraction, -1074, false⟩
  else ⟨0x10000000000000 + fraction, (field : Int) - 1075, fraction == 0 && 1 < field⟩

/-- Whether the sign bit of `x` is set; it is for negative zero. -/
def isSigned (x : Float) : Bool := x.toBits >>> 63 == 1

/-- The exact size as a quotient of two naturals. -/
def Binary.ratio (b : Binary) : Nat × Nat :=
  (b.significand * Nat.pow 2 b.exponent.toNat, Nat.pow 2 (-b.exponent).toNat)

end Decimal

end DataQuality
