import DataQuality.Decimal.Numeral
/-!
# Numbers of a document — integers of 64 bits and floats

An integer numeral stands for an integer while it fits 64 bits, signed or
unsigned. Every other numeral stands for a float. A float is read from at
most 64 bits of digits and one power of ten, so a long numeral may land
beside the nearest float.
-/

namespace DataQuality

namespace Json

open Decimal (Numeral Layout digitsOf ofDigits)

/-- A number of a document. An integer is not below `-2 ^ 63` and is below
`2 ^ 64`. -/
inductive Number where
  | integer (value : Int) (low : -9223372036854775808 ≤ value)
    (high : value < 18446744073709551616)
  | float (value : Float)
  deriving DecidableEq

namespace Number

/-- The integer as a number, if it fits 64 bits. -/
def ofInt? (n : Int) : Option Number :=
  if h : -9223372036854775808 ≤ n ∧ n < 18446744073709551616 then some (.integer n h.1 h.2)
  else none

/-- A signed integer of 64 bits as a number. -/
def ofInt64 (n : Int64) : Number :=
  .integer n.toInt n.le_toInt (by have := n.toInt_lt; omega)

/-- The number as a signed integer of 64 bits; floats are not cut. -/
def toInt64? : Number → Option Int64
  | integer n _ _ => if n < 9223372036854775808 then some (Int64.ofInt n) else none
  | float _ => none

/-- The number as a float; an integer is rounded to the nearest. -/
def toFloat : Number → Float
  | integer n _ _ => Float.ofInt n
  | float x => x

/-- Numbers are equal within their kind; floats as floats. -/
def same : Number → Number → Bool
  | integer m _ _, integer n _ _ => m == n
  | float x, float y => x == y
  | _, _ => false

instance : BEq Number := ⟨same⟩

/-! ## Reading -/

/-- Takes digits into a significand while it fits 64 bits. Yields the
significand and how many digits it took. -/
def absorb (significand : Nat) : List Char → Nat × Nat
  | [] => (significand, 0)
  | c :: rest =>
    let next := significand * 10 + (c.toNat - '0'.toNat)
    if next < 18446744073709551616 then
      let (s, taken) := absorb next rest
      (s, taken + 1)
    else (significand, 0)

/-- The float nearest `10 ^ n`. -/
def powerOfTen (n : Nat) : Float := Float.ofScientific 1 false n

/-- `x * 10 ^ e`, in steps of at most 308 places. Fails beyond the
greatest float; below the least one it is zero, as it is for every
significand of 64 bits more than 616 places down. -/
def scaleFloat? (x : Float) (e : Int) : Option Float :=
  if 0 ≤ e then
    if e ≤ 308 then
      let y := x * powerOfTen e.toNat
      if y.isInf then none else some y
    else if x == 0 then some x else none
  else
    let down := e.natAbs
    if down ≤ 308 then some (x / powerOfTen down)
    else if down ≤ 616 then some (x / powerOfTen 308 / powerOfTen (down - 308))
    else some 0

/-- The float of a numeral. Digits that no longer fit the significand
count as zeros before the point and as nothing after it. -/
def readFloat? (n : Numeral) : Option Float :=
  let (whole, wholeTaken) := absorb 0 n.whole
  let (significand, fractionTaken) := absorb whole n.fraction
  let exponent := ((n.whole.length - wholeTaken : Nat) : Int) - fractionTaken + n.exponent.getD 0
  (scaleFloat? (Float.ofNat significand) exponent).map fun x => if n.negative then -x else x

/-- The number of a numeral, unless it is out of range. A negative zero is
a float, for no integer is. -/
def ofNumeral? (n : Numeral) : Option Number :=
  if n.fraction.isEmpty && n.exponent.isNone then
    let size : Int := ofDigits n.whole
    if n.negative && size == 0 then some (.float (-0.0))
    else
      match ofInt? (if n.negative then -size else size) with
      | some number => some number
      | none => (readFloat? n).map .float
  else (readFloat? n).map .float

/-! ## Writing -/

/-- Floats are written with the fewest digits that read back, a half to
the even digit: positionally from 0.00001 to below 10^16, and with a point
always. -/
def layout : Layout := ⟨fun e => -5 ≤ e && e < 16, true, .toEven⟩

/-- The numeral of a number, which must be finite. -/
def toNumeral : Number → Numeral
  | integer n _ _ => Numeral.ofInt n
  | float x => layout.ofFloat x

end Number

end Json

end DataQuality
