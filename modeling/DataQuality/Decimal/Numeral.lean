import DataQuality.Decimal.Shortest
/-!
# Numerals — how a number is laid out

A numeral is the written form of a number in parts. A layout decides which
numbers are written positionally and whether an integral number keeps a
point; everything else follows from the digits.
-/

namespace DataQuality

namespace Decimal

/-- A written number: sign, digits before the point, digits after it and
the power of ten. Without digits after the point no point is written. -/
structure Numeral where
  negative : Bool
  whole : List Char
  fraction : List Char
  exponent : Option Int
  deriving DecidableEq

/-- The decimal digits of a natural. -/
def digitsOf (n : Nat) : List Char := Nat.toDigits 10 n

/-- The natural that a run of decimal digits stands for. -/
def ofDigits (s : List Char) : Nat := Nat.ofDigitChars 10 s 0

/-- **Digits are read back.** -/
theorem ofDigits_digitsOf (n : Nat) : ofDigits (digitsOf n) = n :=
  Nat.ofDigitChars_toDigits (by decide) (by decide)

theorem isDigit_of_mem_digitsOf {n : Nat} {c : Char} (h : c ∈ digitsOf n) : c.isDigit = true :=
  Nat.isDigit_of_mem_toDigits (by decide) (by decide) h

/-- The text of an integer: a minus sign if it is negative, and its digits. -/
def integerText (n : Int) : List Char :=
  if n < 0 then '-' :: digitsOf n.natAbs else digitsOf n.natAbs

/-- The numeral of an integer. -/
def Numeral.ofInt (n : Int) : Numeral := ⟨n < 0, digitsOf n.natAbs, [], none⟩

/-- A power of ten is written with its sign, also when it is positive. -/
def exponentText : Option Int → List Char
  | none => []
  | some e => 'e' :: (if e < 0 then '-' else '+') :: digitsOf e.natAbs

/-- The text of a numeral. -/
def Numeral.text (n : Numeral) : List Char :=
  (if n.negative then ['-'] else []) ++ n.whole ++
    (if n.fraction.isEmpty then [] else '.' :: n.fraction) ++ exponentText n.exponent

@[simp] theorem Numeral.text_ofInt (n : Int) : (Numeral.ofInt n).text = integerText n := by
  by_cases h : n < 0 <;> simp [Numeral.ofInt, Numeral.text, integerText, exponentText, h]

/-- The decisions of one way to write floats. -/
structure Layout where
  /-- Whether a number whose leading digit counts `10 ^ e` is written
  without a power of ten. -/
  positional : Int → Bool
  /-- Whether an integral number is written with `.0`. -/
  keepsPoint : Bool
  tie : Tie

/-- The parts of the decimal `d` under a layout. -/
def Layout.numeral (l : Layout) (negative : Bool) (d : Digits) : Numeral :=
  let run := digitsOf d.digits
  let leading := d.exponent + run.length - 1
  if l.positional leading then
    if 0 ≤ d.exponent then
      ⟨negative, run ++ List.replicate d.exponent.toNat '0', if l.keepsPoint then ['0'] else [], none⟩
    else if 0 ≤ leading then
      ⟨negative, run.take (leading + 1).toNat, run.drop (leading + 1).toNat, none⟩
    else ⟨negative, ['0'], List.replicate (-leading - 1).toNat '0' ++ run, none⟩
  else ⟨negative, run.take 1, run.drop 1, some leading⟩

/-- The numeral of a finite float: the fewest digits that read back, laid
out as `l` says. Zero keeps its sign. -/
def Layout.ofFloat (l : Layout) (x : Float) : Numeral :=
  l.numeral (isSigned x) ((Binary.ofFloat x).shortest l.tie)

end Decimal

end DataQuality
