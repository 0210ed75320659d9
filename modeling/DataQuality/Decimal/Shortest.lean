import DataQuality.Decimal.Binary
/-!
# Shortest digits — the fewest digits that read back

The reals that round to a float form an interval around it. The digits
chosen for the float are the fewest that name a real of that interval, and
of several equally short candidates the one closest to the float.
-/

namespace DataQuality

namespace Decimal

/-- The decimal `digits * 10 ^ exponent`. -/
structure Digits where
  digits : Nat
  exponent : Int
  deriving DecidableEq

/-- What decides between two candidates that are equally close. -/
inductive Tie where
  | toEven
  | up
  deriving DecidableEq

/-- Compares `a * 10 ^ i` with `n * 2 ^ j`. -/
def compareScaled (a : Nat) (i : Int) (n : Nat) (j : Int) : Ordering :=
  compare (a * Nat.pow 10 i.toNat * Nat.pow 2 (-j).toNat)
    (n * Nat.pow 2 j.toNat * Nat.pow 10 (-i).toNat)

/-- Whether `d` lies among the reals that round to `b`. The ends are
halfway to the neighbours and belong to `b` when its significand is even. -/
def Binary.readsBack (b : Binary) (d : Digits) : Bool :=
  let low := if b.narrowBelow then 4 * b.significand - 1 else 4 * b.significand - 2
  let high := 4 * b.significand + 2
  let closed := b.significand % 2 == 0
  let below := compareScaled d.digits d.exponent low (b.exponent - 2)
  let above := compareScaled d.digits d.exponent high (b.exponent - 2)
  (below == .gt || (closed && below == .eq)) && (above == .lt || (closed && above == .eq))

/-- The least `k` with `b < 10 ^ k`, for `b` not zero. The binary logarithm
times 0.30103 comes within two below it. -/
def Binary.scale (b : Binary) : Int :=
  let guess := ((b.significand.log2 : Int) + b.exponent) * 30103 / 100000
  let fits (k : Int) : Bool := compareScaled 1 k b.significand b.exponent == .gt
  if fits guess then guess else if fits (guess + 1) then guess + 1 else guess + 2

/-- The candidate with `n` digits: of the two neighbours of `b` on the grid
of `n` digits, one that reads back, the closer if both do. -/
def Binary.candidate? (b : Binary) (tie : Tie) (scale : Int) (n : Nat) : Option Digits :=
  let grid := scale - n
  let numerator := b.significand * Nat.pow 2 b.exponent.toNat * Nat.pow 10 (-grid).toNat
  let denominator := Nat.pow 2 (-b.exponent).toNat * Nat.pow 10 grid.toNat
  let low : Digits := ⟨numerator / denominator, grid⟩
  let high : Digits := ⟨numerator / denominator + 1, grid⟩
  match b.readsBack low, b.readsBack high with
  | false, false => none
  | true, false => some low
  | false, true => some high
  | true, true =>
    match compare (2 * (numerator % denominator)) denominator, tie with
    | .lt, _ => some low
    | .gt, _ => some high
    | .eq, .up => some high
    | .eq, .toEven => if low.digits % 2 = 0 then some low else some high

/-- Moves trailing zeros of the digits into the exponent, at most `fuel`
of them. -/
def Digits.strip : Nat → Digits → Digits
  | 0, d => d
  | fuel + 1, d =>
    if d.digits ≠ 0 ∧ d.digits % 10 = 0 then strip fuel ⟨d.digits / 10, d.exponent + 1⟩ else d

/-- The exact decimal of `b`; its digits are as many as they need be. -/
def Binary.exact (b : Binary) : Digits :=
  ⟨b.significand * Nat.pow 2 b.exponent.toNat * Nat.pow 5 (-b.exponent).toNat, min b.exponent 0⟩

/-- The digits of `b`: of the grids with one to seventeen digits the first
that holds a candidate decides. -/
def Binary.shortest (b : Binary) (tie : Tie) : Digits :=
  if b.significand = 0 then ⟨0, 0⟩
  else
    let found := (List.range 17).findSome? fun n => b.candidate? tie b.scale (n + 1)
    (found.getD b.exact).strip 400

end Decimal

end DataQuality
