import DataQuality.Proofs.Binary64.Nearest
/-!
# Integers as floats — what they are rounded to

The float of an integer is that of the nearest integer of 53 significant bits,
at whichever scale it is made (`unpack_ofInt`). So two integers are equal as
floats just when their nearest integers are (`ofInt_beq_iff`), and one of up to
53 bits is told from every other (`nearestInt_eq_iff`).
-/

namespace DataQuality

namespace Binary64

open Float.Model (Format UnpackedFloat totalExponent)
open Float.Model.UnpackedFloat (Sign roundWithAccuracy)

variable {n : Nat}

/-- The integer nearest `z` that has no more than 53 significant bits. -/
def nearestInt (z : Int) : Int := z.sign * nearest z.natAbs

/-! ## Floats of integers -/

/-- A natural is scaled to 53 bits, if it has fewer, and rounded. -/
theorem round_natural (s : Sign) (hn : n ≠ 0) :
    UnpackedFloat.round .binary64 s n 0 = image s (nearest n) := by
  have htarget : Format.binary64.targetExponent (totalExponent n 0) = (n.log2 : Int) - 52 := by
    change max ((n.log2 : Int) + 1 + 0 - 53) (3 - 2 ^ 10 - 53) = _
    omega
  have hscale : (0 - ((n.log2 : Int) - 52)).toNat = 52 - n.log2 := by omega
  have hdecrease : UnpackedFloat.decreaseExponent n 0 ((n.log2 : Int) - 52) =
      (n * 2 ^ (52 - n.log2), -((52 - n.log2 : Nat) : Int)) := by
    rw [UnpackedFloat.decreaseExponent]
    simp only [hscale]
    rw [Nat.shiftLeft_eq, Int.zero_sub]
  rw [UnpackedFloat.round, htarget]
  simp only [hdecrease]
  exact round_scaled hn (by omega)

/-- A natural of 64 bits is rounded once. -/
theorem unpack_toFloat (n : UInt64) :
    n.toFloat.toModel.unpack = image .positive (nearest n.toNat) := by
  have hlog : n.toNat.log2 < 64 := log2_lt_of_lt (by decide) n.toNat_lt
  have hnormalize : UnpackedFloat.normalize .binary64 (n.toNat : Int) 0 .positive =
      image .positive (nearest n.toNat) := by
    rcases Nat.eq_zero_or_pos n.toNat with hzero | hpos
    · rw [hzero]
      rfl
    · have hcompare : compare (n.toNat : Int) 0 = .gt := Int.compare_eq_gt.mpr (by omega)
      rw [UnpackedFloat.normalize, hcompare]
      exact round_natural .positive hpos.ne'
  change (Float.Model.pack (UnpackedFloat.normalize .binary64 (n.toNat : Int) 0 .positive)).unpack
    = _
  rw [hnormalize, unpack_pack_nearest .positive (hlog.trans (by decide))]

theorem unpack_mul (x y : Float) : (x * y).toModel.unpack =
    (Float.Model.pack (UnpackedFloat.mul .binary64 x.toModel.unpack y.toModel.unpack)).unpack :=
  rfl

theorem unpack_one : (Float.ofBits 0x3FF0000000000000).toModel.unpack =
    .finite .positive (2 ^ 52) (-52) (by decide) := rfl

/-- Multiplying by one rounds once more, which changes nothing. -/
theorem mul_one_image (hn : n < 2 ^ 53) :
    UnpackedFloat.mul .binary64 (image .positive n) (.finite .positive (2 ^ 52) (-52) (by decide)) =
      image .positive n := by
  rcases Nat.eq_zero_or_pos n with rfl | hpos
  · rfl
  · have hlog : n.log2 < 53 := log2_lt_of_lt (by decide) hn
    obtain ⟨hsignificand, himage⟩ := image_of_ne_zero .positive hpos.ne'
    have hspare : n.log2 - 52 = 0 := by omega
    have hscaled : significand n * 2 ^ 52 = n * 2 ^ (52 - n.log2 + 52) := by
      rw [significand, hspare, Nat.pow_zero, Nat.div_one, Nat.pow_add, Nat.mul_assoc]
    have hexponent : (n.log2 : Int) - 52 + -52 = -((52 - n.log2 + 52 : Nat) : Int) := by omega
    rw [himage]
    change roundWithAccuracy .binary64 .positive (significand n * 2 ^ 52)
      ((n.log2 : Int) - 52 + -52) .exact = _
    rw [hscaled, hexponent, round_scaled hpos.ne' (by omega), nearest_of_lt hn, himage]

/-- A natural times a power of ten is rounded once. -/
theorem ofScientific_eq (hn : n ≠ 0) {k : Nat} (hk : k ≤ 2 ^ 11) :
    UnpackedFloat.ofScientific .binary64 n k = image .positive (nearest (n * 10 ^ k)) := by
  have hlarge : ¬(k : Int) > 2 ^ 11 := by omega
  have hsmall : ¬(k : Int) < -((2 ^ 11 : Int) + n.log2) := by omega
  have hscaled : n <<< 53 * 10 ^ k = n * 10 ^ k * 2 ^ 53 := by
    rw [Nat.shiftLeft_eq]
    ring
  have hne : n * 10 ^ k ≠ 0 := Nat.mul_ne_zero hn (Nat.pow_pos (by decide)).ne'
  rw [UnpackedFloat.ofScientific, dif_neg hn, if_neg hlarge, if_neg hsmall,
    if_pos (Int.natCast_nonneg k)]
  change roundWithAccuracy .binary64 .positive (n <<< 53 * 10 ^ k) (-53 + 0) .exact = _
  rw [hscaled]
  exact round_scaled hne (by omega)

/-- **A natural becomes the nearest float**, at whichever scale it is rounded. -/
theorem unpack_ofNat (h : n.log2 < 1023) :
    (Float.ofNat n).toModel.unpack = image .positive (nearest n) := by
  change (Float.ofScientific n false 0).toModel.unpack = _
  rw [Float.ofScientific]
  split
  · -- A natural below `2 ^ 53` is converted exactly, and then scaled by one.
    rename_i hsmall
    have htoNat : n.toUInt64.toNat = n :=
      UInt64.toNat_ofNat_of_lt (Nat.lt_trans hsmall.1 (by decide))
    change (n.toUInt64.toFloat * Float.ofBits 0x3FF0000000000000).toModel.unpack = _
    rw [unpack_mul, unpack_one, unpack_toFloat, htoNat, nearest_of_lt hsmall.1,
      mul_one_image hsmall.1, unpack_pack_image .positive (by omega)]
  · rename_i hlarge
    have hne : n ≠ 0 := by
      rintro rfl
      exact hlarge ⟨by decide, by decide⟩
    change (Float.Model.pack (UnpackedFloat.ofScientific .binary64 n (0 : Nat))).unpack = _
    rw [ofScientific_eq hne (by decide), Nat.pow_zero, Nat.mul_one,
      unpack_pack_nearest .positive h]

theorem unpack_neg (x : Float) :
    x.neg.toModel.unpack = (Float.Model.pack x.toModel.unpack.neg).unpack := rfl

theorem neg_image (s : Sign) (n : Nat) : (image s n).neg = image (-s) n := by
  rw [image, image]
  split <;> rfl

/-- An integer becomes the nearest float, sign and size. -/
theorem unpack_ofInt {z : Int} (h : z.natAbs.log2 < 1023) : (Float.ofInt z).toModel.unpack =
    image (if z < 0 then .negative else .positive) (nearest z.natAbs) := by
  cases z with
  | ofNat n => exact unpack_ofNat h
  | negSucc n =>
    have h : (n + 1).log2 < 1023 := h
    rw [if_pos (Int.negSucc_lt_zero n)]
    change (Float.neg (Float.ofNat (n + 1))).toModel.unpack = image .negative (nearest (n + 1))
    rw [unpack_neg, unpack_ofNat h, neg_image]
    exact unpack_pack_nearest .negative h

/-- What the nearest integer is, as a sign and a natural. -/
theorem apply_nearest (z : Int) :
    (if z < 0 then Sign.negative else .positive).apply (nearest z.natAbs) = nearestInt z := by
  rw [nearestInt]
  rcases Int.lt_trichotomy z 0 with h | rfl | h
  · rw [if_pos h, Int.sign_eq_neg_one_of_neg h]
    exact (Int.neg_one_mul _).symm
  · rfl
  · rw [if_neg h.le.not_gt, Int.sign_eq_one_of_pos h]
    exact (Int.one_mul _).symm

theorem round_nearest (n : Nat) : Round (nearest n) := by
  rcases Nat.eq_zero_or_pos n with rfl | hpos
  · exact ⟨0, by decide⟩
  · exact (nearest_spec hpos.ne').2.1

/-- **Integers are equal as floats** just when their nearest integers of 53
significant bits are. -/
theorem ofInt_beq_iff {a b : Int} (ha : a.natAbs.log2 < 1023) (hb : b.natAbs.log2 < 1023) :
    (Float.ofInt a == Float.ofInt b) = true ↔ nearestInt a = nearestInt b := by
  change (Float.ofInt a).toModel.unpack.beq (Float.ofInt b).toModel.unpack = true ↔ _
  rw [unpack_ofInt ha, unpack_ofInt hb, image_beq_iff (round_nearest _) (round_nearest _),
    apply_nearest, apply_nearest]

/-- An integer of up to 53 bits is told from every other. -/
theorem nearestInt_eq_iff {a b : Int} (ha : a.natAbs < 2 ^ 53) :
    nearestInt a = nearestInt b ↔ a = b := by
  have hsmall : ∀ {z : Int}, z.natAbs < 2 ^ 53 → nearestInt z = z := fun h => by
    rw [nearestInt, nearest_of_lt h, Int.sign_mul_natAbs]
  rcases Nat.lt_or_ge b.natAbs (2 ^ 53) with hb | hb
  · rw [hsmall ha, hsmall hb]
  · -- More bits stay more bits.
    refine iff_of_false (fun h => ?_) (by rintro rfl; omega)
    have hne : b.natAbs ≠ 0 := by omega
    have hlog : 53 ≤ (nearest b.natAbs).log2 :=
      ((Nat.le_log2 hne).mpr hb).trans (nearest_spec hne).2.2.1
    have hlarge : 2 ^ 53 ≤ nearest b.natAbs := (Nat.le_log2 (nearest_spec hne).1).mp hlog
    have hsize : (nearestInt b).natAbs = nearest b.natAbs := by
      rw [nearestInt, Int.natAbs_mul, Int.natAbs_sign_of_ne_zero (by omega), Nat.one_mul,
        Int.natAbs_natCast]
    rw [← hsize, ← h, hsmall ha] at hlarge
    omega

/-- Integers of 64 bits are far from the ends of the range of floats. -/
theorem log2_toInt_lt (n : Int64) : n.toInt.natAbs.log2 < 1023 := by
  have hlow := n.le_toInt
  have hhigh := n.toInt_lt
  have hlog : n.toInt.natAbs.log2 < 64 := log2_lt_of_lt (by decide) (by omega)
  omega

end Binary64

end DataQuality
