import Mathlib
/-!
# Packed floats — what survives 64 bits

An operation on floats unpacks them to sign, significand and exponent, and
packs what it comes to. A number of 53 significant bits whose exponent is in
range is unpacked as it was packed (`unpack_pack_finite`), and what is unpacked
is no number only if what was packed was none (`isNaN_unpack_pack`).
-/

namespace DataQuality

namespace Binary64

open Float.Model (Format UnpackedFloat)
open Float.Model.UnpackedFloat (Sign packComponents)

variable {s : Sign} {m : Nat} {e : Int} {u : UnpackedFloat}

theorem log2_of_mem (hlow : 2 ^ 52 ≤ m) (hhigh : m < 2 ^ 53) : m.log2 = 52 :=
  (Nat.log2_eq_iff (by omega)).mpr ⟨hlow, hhigh⟩

/-- A significand of 53 bits, and an exponent that such a significand can have. -/
structure Normal (m : Nat) (e : Int) : Prop where
  low : 2 ^ 52 ≤ m
  high : m < 2 ^ 53
  above : -1074 ≤ e
  below : e ≤ 971

/-! ## The fields of 64 bits -/

/-- The leading bit of a significand is not packed. -/
theorem toNat_leading (v : BitVec 52) : (1#1 ++ v).toNat = 2 ^ 52 + v.toNat := by
  rw [BitVec.toNat_append, ← Nat.shiftLeft_add_eq_or_of_lt v.isLt]
  rfl

/-- The exponent field of a number that fits is neither the least nor the
greatest. -/
theorem biased_ne (h : Normal m e) (f : BitVec 11) (hf : f.toNat = 0 ∨ f.toNat = 2047) :
    BitVec.ofNat 11 (e + 1075).toNat ≠ f := by
  intro heq
  have hfield := congrArg BitVec.toNat heq
  rw [BitVec.toNat_ofNat] at hfield
  have := h.above
  have := h.below
  omega

/-! ## What is unpacked -/

/-- **A number of 53 significant bits is unpacked as it was packed.** -/
theorem unpack_pack_finite (h : Normal m e) (hm : 0 < m) :
    (Float.Model.pack (.finite s m e hm)).unpack = .finite s m e hm := by
  have hbiased : (e + (Format.binary64.exponentBias : Int) +
      (Format.binary64.mantissaBitsWithoutImplicit : Int)).toNat = (e + 1075).toNat :=
    congrArg Int.toNat (by change e + 1023 + 52 = e + 1075; omega)
  have hfits : ¬2 ^ 11 ≤ (e + 1075).toNat + 1 := by
    have := h.below
    omega
  have hpacked : UnpackedFloat.pack .binary64 (.finite s m e hm) =
      packComponents .binary64 s (BitVec.ofNat 11 (e + 1075).toNat) (BitVec.ofNat 52 m) := by
    rw [UnpackedFloat.pack]
    simp only [hbiased, log2_of_mem h.low h.high]
    rw [if_neg hfits, if_pos (by rfl)]
  have hexponent : ((BitVec.ofNat 11 (e + 1075).toNat).toNat : Int) - (1023 + 52) = e := by
    rw [BitVec.toNat_ofNat]
    have := h.above
    omega
  have hmantissa : (1#1 ++ BitVec.ofNat 52 m).toNat = m := by
    rw [toNat_leading, BitVec.toNat_ofNat]
    have := h.low
    have := h.high
    omega
  change UnpackedFloat.unpack .binary64 (UnpackedFloat.pack .binary64 (.finite s m e hm)) = _
  rw [hpacked, UnpackedFloat.unpack]
  simp only [UnpackedFloat.unpackMantissa_packComponents,
    UnpackedFloat.unpackExponent_packComponents, UnpackedFloat.unpackSign_packComponents,
    Sign.ofBitVec_toBitVec, hmantissa]
  rw [if_neg (biased_ne h _ (.inr rfl)), if_neg (biased_ne h _ (.inl rfl))]
  exact congrArg (UnpackedFloat.finite s m · hm) hexponent

theorem unpack_pack_zero (s : Sign) : (Float.Model.pack (.zero s)).unpack = .zero s := by
  cases s <;> rfl

theorem unpack_pack_infinity (s : Sign) :
    (Float.Model.pack (.infinity s)).unpack = .infinity s := by
  cases s <;> rfl

/-- Fields whose exponent is the greatest only for an infinity are a number. -/
theorem isNaN_unpack_packComponents (f : BitVec 11) (v : BitVec 52) (h : f = -1#11 → v = 0#52) :
    (UnpackedFloat.unpack .binary64 (packComponents .binary64 s f v)).isNaN = false := by
  rw [UnpackedFloat.unpack]
  simp only [UnpackedFloat.unpackMantissa_packComponents,
    UnpackedFloat.unpackExponent_packComponents]
  split
  · rename_i hf
    rw [if_pos (h hf)]
    rfl
  · split
    · split <;> rfl
    · rfl

/-- **What is unpacked is a number just when what was packed is one.** -/
theorem isNaN_unpack_pack (u : UnpackedFloat) : (Float.Model.pack u).unpack.isNaN = u.isNaN := by
  cases u with
  | notANumber => rfl
  | infinity s => rw [unpack_pack_infinity]
  | zero s => rw [unpack_pack_zero]
  | finite s m e hm =>
    change (UnpackedFloat.unpack .binary64
      (UnpackedFloat.pack .binary64 (.finite s m e hm))).isNaN = false
    rw [UnpackedFloat.pack]
    simp only
    split
    · exact isNaN_unpack_packComponents _ _ fun _ => rfl
    · rename_i hfits
      split
      · -- The exponent field is below the greatest.
        refine isNaN_unpack_packComponents _ _ fun h => ?_
        have hfield := congrArg BitVec.toNat h
        rw [BitVec.toNat_ofNat, Nat.mod_eq_of_lt (by omega)] at hfield
        change _ = 2047 at hfield
        change ¬2 ^ 11 ≤ _ at hfits
        omega
      · exact isNaN_unpack_packComponents _ _ fun h => absurd h (by decide)

end Binary64

end DataQuality
