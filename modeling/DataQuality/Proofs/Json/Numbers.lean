import DataQuality.Json.Number
import DataQuality.Proofs.Binary64.Integers
import DataQuality.Proofs.Json.Scanning
/-!
# Numbers — what is read is equal to itself, and integers are read back

A float that is no number is not equal to itself. None is ever read: a
significand of 64 bits is finite, and so is each power of ten that it is scaled
by, and none of them is zero (`powerOfTen_finite`). So what a numeral is read as
is equal to itself (`Json.Number.beq_self_of_numeral`).

What an integer literal of 64 bits is read as (`Json.Number.ofNumeral?_of_isInt64`)
is read back from the numeral it is written as (`Json.Number.Stable`). That is
the integer, but for the negative zero, which is a float.
-/

namespace DataQuality

namespace Binary64

open Float.Model (UnpackedFloat)
open Float.Model.UnpackedFloat (Sign Accuracy roundWithAccuracy)

variable {u : UnpackedFloat} {s : Sign} {m : Nat} {e : Int} {x y : Float}

/-! ## Floats that are numbers -/

/-- A float is equal to itself if it is a number. -/
theorem beq_self (h : x.isNaN = false) : (x == x) = true := by
  rw [Float.isNaN_eq_decide_eq_nan, decide_eq_false_iff_not] at h
  exact Float.beq_self_iff.mpr h

/-- Rounding gives a number. -/
theorem isNaN_roundWithAccuracy (a : Accuracy) :
    (roundWithAccuracy .binary64 s m e a).isNaN = false := by
  rw [roundWithAccuracy]
  simp only
  split <;> rfl

/-- A finite float that is not zero. -/
def FiniteNonzero (x : Float) : Prop :=
  ∃ s m e h, x.toModel.unpack = .finite s m e h

/-- A product of finite floats is a number. -/
theorem isNaN_mul (hx : x.isFinite = true) (hy : FiniteNonzero y) : (x * y).isNaN = false := by
  obtain ⟨s, m, e, hm, hy⟩ := hy
  change (x * y).toModel.unpack.isNaN = false
  change x.toModel.unpack.isFinite = true at hx
  rw [unpack_mul, isNaN_unpack_pack, hy]
  generalize x.toModel.unpack = u at hx ⊢
  cases u with
  | notANumber => cases hx
  | infinity _ => cases hx
  | zero _ => rfl
  | finite _ _ _ _ => exact isNaN_roundWithAccuracy _

/-- A number over a finite float that is not zero is a number. -/
theorem isNaN_div (hx : x.isNaN = false) (hy : FiniteNonzero y) : (x / y).isNaN = false := by
  obtain ⟨s, m, e, hm, hy⟩ := hy
  change (Float.Model.pack
    (UnpackedFloat.div .binary64 x.toModel.unpack y.toModel.unpack)).unpack.isNaN = false
  change x.toModel.unpack.isNaN = false at hx
  rw [isNaN_unpack_pack, hy]
  generalize x.toModel.unpack = u at hx ⊢
  cases u with
  | notANumber => cases hx
  | infinity _ => rfl
  | zero _ => rfl
  | finite _ _ _ _ => exact isNaN_roundWithAccuracy _

theorem isNaN_neg (hx : x.isNaN = false) : (-x).isNaN = false := by
  change x.neg.toModel.unpack.isNaN = false
  change x.toModel.unpack.isNaN = false at hx
  rw [unpack_neg, isNaN_unpack_pack]
  generalize x.toModel.unpack = u at hx ⊢
  cases u with
  | notANumber => cases hx
  | infinity _ => rfl
  | zero _ => rfl
  | finite _ _ _ _ => rfl

/-- A natural in range is a finite float. -/
theorem isFinite_ofNat {n : Nat} (h : n.log2 < 1023) : (Float.ofNat n).isFinite = true := by
  change (Float.ofNat n).toModel.unpack.isFinite = true
  rw [unpack_ofNat h, image]
  split <;> rfl

theorem isNaN_of_isFinite (h : x.isFinite = true) : x.isNaN = false := by
  change x.toModel.unpack.isFinite = true at h
  change x.toModel.unpack.isNaN = false
  generalize x.toModel.unpack = u at h ⊢
  cases u with
  | notANumber => cases h
  | infinity _ => cases h
  | zero _ => rfl
  | finite _ _ _ _ => rfl

end Binary64

namespace Decimal

/-- The integer that the sign and the digits before the point stand for. -/
def Numeral.integer (n : Numeral) : Int :=
  if n.negative then -(ofDigits n.whole : Int) else ofDigits n.whole

/-- An integer literal that fits 64 bits with sign. -/
structure Numeral.IsInt64 (n : Numeral) : Prop where
  fraction : n.fraction = []
  exponent : n.exponent = none
  low : -9223372036854775808 ≤ n.integer
  high : n.integer < 9223372036854775808

end Decimal

namespace Json.Number

open Binary64 (FiniteNonzero nearest)
open Decimal (Numeral ofDigits)
open Float.Model (UnpackedFloat)

variable {n : Numeral} {x y : Float} {number : Number}

/-! ## Powers of ten -/

/-- Small powers of ten are listed. -/
theorem powerOfTen_listed : ∀ k ≤ 22,
    (match (powerOfTen k).toModel.unpack with
      | .finite .. => true
      | _ => false) = true := by
  decide +kernel

/-- No power of ten of up to 308 places is rounded beyond the greatest float. -/
theorem log2_nearest_power {k : Nat} (hk : k ≤ 308) : (nearest (10 ^ k)).log2 < 1024 := by
  have hne : 10 ^ k ≠ 0 := (Nat.pow_pos (by decide)).ne'
  rcases Nat.lt_or_ge k 308 with hless | hmore
  · have hlog : (10 ^ k).log2 < 1023 := by
      rw [Nat.log2_lt hne]
      have hpower := Nat.pow_le_pow_right (n := 10) (i := k) (j := 307) (by decide) (by omega)
      exact Nat.lt_of_le_of_lt hpower (by decide +kernel)
    have := (Binary64.nearest_spec hne).2.2.2
    omega
  · -- The power has as many bits as the greatest float, and is below it.
    obtain rfl : k = 308 := by omega
    decide +kernel

/-- **A power of ten of up to 308 places is finite and not zero.** -/
theorem powerOfTen_finite {k : Nat} (hk : k ≤ 308) : FiniteNonzero (powerOfTen k) := by
  rcases Nat.lt_or_ge 22 k with hmore | hless
  · -- A power that is not listed is rounded from the exact one.
    have hslow : ¬(1 < 2 ^ 53 ∧ k ≤ 22) := fun h => by omega
    have hne : nearest (1 * 10 ^ k) ≠ 0 :=
      (Binary64.nearest_spec (Nat.mul_ne_zero (by decide) (Nat.pow_pos (by decide)).ne')).1
    obtain ⟨h, himage⟩ := Binary64.image_of_ne_zero .positive hne
    refine ⟨.positive, Binary64.significand (nearest (1 * 10 ^ k)),
      ((nearest (1 * 10 ^ k)).log2 : Int) - 52, h, ?_⟩
    rw [powerOfTen, Float.ofScientific, dif_neg hslow, ← himage]
    change (Float.Model.pack (UnpackedFloat.ofScientific .binary64 1 k)).unpack = _
    rw [Binary64.ofScientific_eq (by decide) (by omega), Binary64.unpack_pack_image]
    rw [Nat.one_mul]
    exact log2_nearest_power hk
  · have hlisted := powerOfTen_listed k hless
    rw [FiniteNonzero]
    generalize (powerOfTen k).toModel.unpack = u at hlisted ⊢
    cases u with
    | finite s m e h => exact ⟨s, m, e, h, rfl⟩
    | notANumber => cases hlisted
    | infinity _ => cases hlisted
    | zero _ => cases hlisted

/-! ## Reading -/

/-- A significand stays within 64 bits. -/
theorem absorb_lt {significand : Nat} (cs : List Char) (h : significand < 18446744073709551616) :
    (absorb significand cs).1 < 18446744073709551616 := by
  induction cs generalizing significand with
  | nil => exact h
  | cons c rest ih =>
    rw [absorb]
    simp only
    split
    · rename_i hnext
      exact ih hnext
    · exact h

/-- **Scaling a finite float gives a number**, if it gives anything. -/
theorem isNaN_of_scaleFloat? {e : Int} (hx : x.isFinite = true) (h : scaleFloat? x e = some y) :
    y.isNaN = false := by
  have hnumber : x.isNaN = false := Binary64.isNaN_of_isFinite hx
  rw [scaleFloat?] at h
  split at h
  · split at h
    · have hpower : FiniteNonzero (powerOfTen e.toNat) := powerOfTen_finite (by omega)
      simp only at h
      split at h
      · cases h
      · obtain rfl := Option.some.inj h
        exact Binary64.isNaN_mul hx hpower
    · split at h
      · obtain rfl := Option.some.inj h
        exact hnumber
      · cases h
  · simp only at h
    split at h
    · rename_i hdown
      obtain rfl := Option.some.inj h
      exact Binary64.isNaN_div hnumber (powerOfTen_finite hdown)
    · split at h
      · -- Far down, it takes two steps.
        obtain rfl := Option.some.inj h
        have hfirst := Binary64.isNaN_div hnumber (powerOfTen_finite (Nat.le_refl 308))
        exact Binary64.isNaN_div hfirst (powerOfTen_finite (by omega))
      · obtain rfl := Option.some.inj h
        exact Binary64.isNaN_of_isFinite (Binary64.isFinite_ofNat (by decide))

/-- **What is read is a number.** -/
theorem isNaN_of_readFloat? (h : readFloat? n = some x) : x.isNaN = false := by
  have hlt : (absorb (absorb 0 n.whole).1 n.fraction).1 < 18446744073709551616 :=
    absorb_lt _ (absorb_lt _ (by decide))
  have hlog : (absorb (absorb 0 n.whole).1 n.fraction).1.log2 < 64 :=
    Binary64.log2_lt_of_lt (by decide) hlt
  rw [readFloat?] at h
  obtain ⟨y, hy, hsign⟩ := Option.map_eq_some_iff.mp h
  have hnumber := isNaN_of_scaleFloat? (Binary64.isFinite_ofNat (hlog.trans (by decide))) hy
  split at hsign
  · rw [← hsign]
    exact Binary64.isNaN_neg hnumber
  · rw [← hsign]
    exact hnumber

/-- **A number that is read is equal to itself.** -/
theorem beq_self_of_numeral (h : ofNumeral? n = some number) : (number == number) = true := by
  have hfloat : ∀ {x : Float}, x.isNaN = false → (Number.float x == .float x) = true :=
    fun h => Binary64.beq_self h
  have hinteger : ∀ {z : Int}, ofInt? z = some number → (number == number) = true := by
    intro z h
    rw [ofInt?] at h
    split at h
    · obtain rfl := Option.some.inj h
      exact beq_self_eq_true z
    · cases h
  have hread : (readFloat? n).map Number.float = some number → (number == number) = true := by
    intro h
    obtain ⟨x, hx, rfl⟩ := Option.map_eq_some_iff.mp h
    exact hfloat (isNaN_of_readFloat? hx)
  rw [ofNumeral?] at h
  split at h
  · simp only at h
    split at h
    · obtain rfl := Option.some.inj h
      exact hfloat rfl
    · split at h
      · rename_i hfits
        obtain rfl := Option.some.inj h
        exact hinteger hfits
      · exact hread h
  · exact hread h

/-! ## Numbers that are read back -/

/-- The integer of a numeral of 64 bits is the integer it was made of. -/
theorem ofNumeral?_ofInt {n : Int} (hlow : -9223372036854775808 ≤ n)
    (hhigh : n < 18446744073709551616) :
    ofNumeral? (Decimal.Numeral.ofInt n) = some (.integer n hlow hhigh) := by
  have hsize : (Decimal.ofDigits (Decimal.digitsOf n.natAbs) : Int) = n.natAbs := by
    rw [Decimal.ofDigits_digitsOf]
  have hzero : (decide (n < 0) && (n.natAbs : Int) == 0) = false := by
    rw [Bool.and_eq_false_iff, decide_eq_false_iff_not, beq_eq_false_iff_ne]
    omega
  have hsigned : (if decide (n < 0) = true then -(n.natAbs : Int) else n.natAbs) = n := by
    split <;> rename_i h <;> rw [decide_eq_true_eq] at h <;> omega
  have hrange : -9223372036854775808 ≤ n ∧ n < 18446744073709551616 := ⟨hlow, hhigh⟩
  simp only [ofNumeral?, Decimal.Numeral.ofInt, hsize, hzero, hsigned, ofInt?, dif_pos hrange]
  rfl

/-- A number that is read back from the numeral it is written as. -/
structure Stable (number : Number) : Prop where
  finite : ∀ x, number = .float x → x.isFinite = true
  wellFormed : number.toNumeral.WellFormed
  reread : ofNumeral? number.toNumeral = some number

/-- **An integer is read back**, signed or not. -/
theorem stable_integer (z : Int) (hlow : -9223372036854775808 ≤ z)
    (hhigh : z < 18446744073709551616) : (integer z hlow hhigh).Stable where
  finite := nofun
  wellFormed := Numeral.wellFormed_ofInt z
  reread := ofNumeral?_ofInt hlow hhigh

/-- **So is the negative zero**, which is a float and keeps its sign. -/
theorem stable_negativeZero : (float (-0.0)).Stable where
  finite x h := by
    rw [← Number.float.inj h]
    decide
  wellFormed := by
    have hnumeral : toNumeral (float (-0.0)) = ⟨true, ['0'], ['0'], none⟩ := by decide
    rw [hnumeral]
    exact ⟨List.cons_ne_nil _ _, List.forall_mem_singleton.mpr rfl,
      fun rest h => (List.cons.inj h).2.symm, List.forall_mem_singleton.mpr rfl⟩
  reread := by decide

/-- **What an integer literal of 64 bits with sign is read as**: the integer, or
the negative zero. -/
theorem ofNumeral?_of_isInt64 (h : n.IsInt64) :
    ofNumeral? n = some (.float (-0.0)) ∨ ∃ i : Int64, ofNumeral? n = some (ofInt64 i) := by
  obtain ⟨hfraction, hexponent, hlow, hhigh⟩ := h
  have hplain : (n.fraction.isEmpty && n.exponent.isNone) = true := by
    rw [hfraction, hexponent]
    rfl
  rw [Numeral.integer] at hlow hhigh
  rw [ofNumeral?, if_pos hplain]
  simp only
  by_cases hzero : (n.negative && (ofDigits n.whole : Int) == 0) = true
  · left
    rw [if_pos hzero]
  · right
    rw [if_neg hzero]
    generalize (if n.negative = true then -(ofDigits n.whole : Int) else ofDigits n.whole) = z
      at hlow hhigh ⊢
    have hrange : -9223372036854775808 ≤ z ∧ z < 18446744073709551616 := ⟨hlow, by omega⟩
    have hof : (Int64.ofInt z).toInt = z := Int64.toInt_ofInt_of_le hlow hhigh
    refine ⟨Int64.ofInt z, ?_⟩
    rw [ofInt?, dif_pos hrange]
    simp only [ofInt64, hof]

end Json.Number

end DataQuality
