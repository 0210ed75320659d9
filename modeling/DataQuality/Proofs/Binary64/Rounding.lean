import DataQuality.Decimal.Places
import DataQuality.Proofs.Binary64.Packing
/-!
# Rounding — a quotient in 53 bits

A float has 53 significant bits, and what has more is rounded to the nearest, a
half to the even one. To round, a significand is shifted bit by bit, and a
round and a sticky bit remember what is lost. That is division with remainder
(`Residual`), so that rounding in steps is rounding a quotient at once
(`roundWithAccuracy_exact`).
-/

namespace DataQuality

namespace Binary64

open Decimal (roundDiv)
open Float.Model (Format totalExponent)
open Float.Model.UnpackedFloat (Sign ExtendedMantissa roundWithAccuracy shiftToTargetExponent
  shiftToExponent)

variable {s : Sign} {m n d q : Nat} {e : Int}

/-! ## Rounding a quotient -/

theorem roundDiv_of_dvd (hd : 0 < d) (h : d ∣ n) : roundDiv n d = n / d := by
  have hcompare : compare (2 * (n % d)) d = .lt := by
    rw [Nat.mod_eq_zero_of_dvd h]
    exact Nat.compare_eq_lt.mpr hd
  simp only [roundDiv, hcompare]

/-- A common factor does not matter. -/
theorem roundDiv_mul_right (c : Nat) (hc : 0 < c) : roundDiv (n * c) (d * c) = roundDiv n d := by
  have hmod : n * c % (d * c) = n % d * c := Nat.mul_mod_mul_right c n d
  have hcompare : compare (2 * (n % d * c)) (d * c) = compare (2 * (n % d)) d := by
    rw [← Nat.mul_assoc]
    rcases Nat.lt_trichotomy (2 * (n % d)) d with h | h | h
    · rw [Nat.compare_eq_lt.mpr h, Nat.compare_eq_lt.mpr (Nat.mul_lt_mul_of_pos_right h hc)]
    · rw [h, Nat.compare_eq_eq.mpr rfl, Nat.compare_eq_eq.mpr rfl]
    · rw [Nat.compare_eq_gt.mpr h, Nat.compare_eq_gt.mpr (Nat.mul_lt_mul_of_pos_right h hc)]
  rw [roundDiv, hmod, Nat.mul_div_mul_right n d hc, hcompare]
  rfl

/-- A quotient is rounded down or up. -/
theorem roundDiv_mem (n d : Nat) : n / d ≤ roundDiv n d ∧ roundDiv n d ≤ n / d + 1 := by
  rw [roundDiv]
  split
  · omega
  · omega
  · split <;> omega

/-- A rounded quotient is as close as any natural. -/
theorem roundDiv_closest (hd : 0 < d) (q : Nat) :
    ((n : Int) - (roundDiv n d * d : Nat)).natAbs ≤ ((n : Int) - (q * d : Nat)).natAbs := by
  have hn : n / d * d + n % d = n := Nat.div_add_mod' n d
  have hlt : n % d < d := Nat.mod_lt n hd
  have hup : (n / d + 1) * d = n / d * d + d := Nat.succ_mul _ _
  -- No multiple of `d` lies between the two that `n` lies between.
  have hsides : q * d ≤ n / d * d ∨ n / d * d + d ≤ q * d := by
    rcases Nat.lt_or_ge (n / d) q with h | h
    · exact .inr (hup ▸ Nat.mul_le_mul_right d h)
    · exact .inl (Nat.mul_le_mul_right d h)
  rw [roundDiv]
  split
  · rename_i h
    have := Nat.compare_eq_lt.mp h
    omega
  · rename_i h
    have := Nat.compare_eq_gt.mp h
    rw [hup]
    omega
  · rename_i h
    have := Nat.compare_eq_eq.mp h
    split
    · omega
    · rw [hup]
      omega

/-! ## Shifting -/

/-- A significand with what was shifted out of it stands for a quotient: the
round bit says that at least a half is missing, the sticky bit that what is
missing is no half. -/
structure Residual (em : ExtendedMantissa) (n d : Nat) : Prop where
  mantissa : em.mantissa = n / d
  roundBit : em.roundBit = decide (d ≤ 2 * (n % d))
  stickyBit : em.stickyBit = decide (2 * (n % d) % d ≠ 0)

namespace Residual

variable {em : ExtendedMantissa}

/-- **A shift halves the quotient.** -/
theorem shiftRightOne (h : Residual em n d) (hd : 0 < d) :
    Residual em.shiftRightOne n (d * 2) := by
  have hmod : n % (d * 2) = n % d + d * (n / d % 2) := Nat.mod_mul
  have hlt : n % d < d := Nat.mod_lt n hd
  have hbit : n / d % 2 = 0 ∨ n / d % 2 = 1 := Nat.mod_two_eq_zero_or_one _
  refine ⟨?_, ?_, ?_⟩
  · change em.mantissa / 2 = n / (d * 2)
    rw [h.mantissa, Nat.div_div_eq_div_mul]
  · change (em.mantissa % 2 != 0) = _
    rw [h.mantissa, hmod]
    rcases hbit with hbit | hbit <;> simp [hbit] <;> omega
  · -- Something is missing of the half just when something is missing.
    have hhalf : 2 * (n % (d * 2)) % (d * 2) = 2 * (n % d) := by
      rw [Nat.mul_comm d 2, Nat.mul_mod_mul_left, Nat.mul_comm 2 d,
        Nat.mod_mod_of_dvd n (Nat.dvd_mul_right d 2)]
    have hmissing : (d ≤ 2 * (n % d) ∨ 2 * (n % d) % d ≠ 0) ↔ 2 * (n % d) ≠ 0 := by
      rcases Nat.lt_or_ge (2 * (n % d)) d with hless | hmore
      · rw [Nat.mod_eq_of_lt hless]
        omega
      · omega
    change (em.roundBit || em.stickyBit) = _
    rw [h.roundBit, h.stickyBit, hhalf, ← Bool.decide_or]
    exact decide_eq_decide.mpr hmissing

theorem shiftRight (h : Residual em n d) (hd : 0 < d) (k : Nat) :
    Residual (em >>> k) n (d * 2 ^ k) := by
  change Residual (k.repeat ExtendedMantissa.shiftRightOne em) n (d * 2 ^ k)
  induction k with
  | zero => rwa [Nat.pow_zero, Nat.mul_one]
  | succ k ih =>
    rw [Nat.pow_succ, ← Nat.mul_assoc]
    exact ih.shiftRightOne (Nat.mul_pos hd (Nat.two_pow_pos k))

/-- What a significand is rounded to is the rounded quotient. -/
theorem roundedMantissa (h : Residual em n d) (hd : 0 < d) : em.roundedMantissa = roundDiv n d := by
  obtain ⟨mantissa, roundBit, stickyBit⟩ := em
  obtain ⟨rfl, rfl, rfl⟩ := h
  have hlt : n % d < d := Nat.mod_lt n hd
  rw [ExtendedMantissa.roundedMantissa, roundDiv]
  -- Less than a half is missing, a half, or more.
  rcases Nat.lt_trichotomy (2 * (n % d)) d with h | h | h
  · have hround : decide (d ≤ 2 * (n % d)) = false := decide_eq_false (by omega)
    rw [Nat.compare_eq_lt.mpr h, hround]
    cases decide (2 * (n % d) % d ≠ 0) <;> rfl
  · have hround : decide (d ≤ 2 * (n % d)) = true := decide_eq_true (by omega)
    have hsticky : decide (2 * (n % d) % d ≠ 0) = false := by
      rw [h, Nat.mod_self]
      rfl
    rw [Nat.compare_eq_eq.mpr h, hround, hsticky]
    change n / d + n / d % 2 = if n / d % 2 = 0 then n / d else n / d + 1
    split <;> omega
  · have hround : decide (d ≤ 2 * (n % d)) = true := decide_eq_true (by omega)
    have hsticky : decide (2 * (n % d) % d ≠ 0) = true := by
      have hrest : 2 * (n % d) % d = 2 * (n % d) - d := by
        rw [Nat.mod_eq_sub_mod (by omega), Nat.mod_eq_of_lt (by omega)]
      rw [hrest]
      exact decide_eq_true (by omega)
    rw [Nat.compare_eq_gt.mpr h, hround, hsticky]
    rfl

end Residual

/-- Nothing is missing of an exact significand. -/
theorem residual_exact (m : Nat) :
    Residual (ExtendedMantissa.ofMantissaAndAccuracy m .exact) m 1 := by
  refine ⟨(Nat.div_one m).symm, ?_, ?_⟩
  · rw [Nat.mod_one]
    rfl
  · rw [Nat.mod_one]
    rfl

/-! ## Rounding to 53 bits -/

/-- A shift to 53 bits leaves the exponent that such a significand has. -/
theorem shiftToTargetExponent_exact {k : Nat} (hlog : m.log2 = 52 + k) (habove : -1074 ≤ e + k) :
    shiftToTargetExponent .binary64 m e .exact =
      (ExtendedMantissa.ofMantissaAndAccuracy m .exact >>> k, e + k) := by
  have htarget : Format.binary64.targetExponent (totalExponent m e) = e + k := by
    change max ((m.log2 : Int) + 1 + e - 53) (3 - 2 ^ 10 - 53) = e + k
    omega
  have hshift : (e + k - e).toNat = k := by omega
  rw [shiftToTargetExponent, htarget, shiftToExponent]
  simp only [hshift]

/-- **Rounding divides with remainder, and divides once more if that carried**
into a 54th bit. -/
theorem roundWithAccuracy_exact {k j : Nat} (hlog : m.log2 = 52 + k) (habove : -1074 ≤ e + k)
    (hq : roundDiv m (2 ^ k) = q) (hcarry : q.log2 = 52 + j) (hpos : 0 < q / 2 ^ j) :
    roundWithAccuracy .binary64 s m e .exact = .finite s (q / 2 ^ j) (e + k + j) hpos := by
  have hresidual : ∀ n i, Residual (ExtendedMantissa.ofMantissaAndAccuracy n .exact >>> i) n
      (2 ^ i) := fun n i => by
    have h := (residual_exact n).shiftRight Nat.one_pos i
    rwa [Nat.one_mul] at h
  have hrounded : (ExtendedMantissa.ofMantissaAndAccuracy m .exact >>> k).roundedMantissa = q :=
    ((hresidual m k).roundedMantissa (Nat.two_pow_pos k)).trans hq
  -- The second shift starts from an exact significand again, so nothing that
  -- the first one lost is counted twice.
  have habove' : -1074 ≤ e + k + j := by omega
  rw [roundWithAccuracy, shiftToTargetExponent_exact hlog habove]
  simp only [hrounded, shiftToTargetExponent_exact hcarry habove', (hresidual q j).mantissa]
  rw [dif_neg hpos.ne']

end Binary64

end DataQuality
