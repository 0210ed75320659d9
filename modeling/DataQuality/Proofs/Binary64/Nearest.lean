import DataQuality.Proofs.Binary64.Rounding
/-!
# The nearest natural — integers of 53 significant bits

A natural with more than 53 significant bits is rounded to the nearest one that
has no more (`nearest`), and no other such natural is closer
(`nearest_closest`). Rounding a natural gives the same at every scale
(`round_scaled`): the float of the nearest natural (`image`), of which the
natural can be told (`image_beq_iff`).
-/

namespace DataQuality

namespace Binary64

open Decimal (roundDiv)
open Float.Model (UnpackedFloat)
open Float.Model.UnpackedFloat (Sign roundWithAccuracy)

variable {s : Sign} {m n q : Nat} {e : Int}

/-! ## The nearest integer -/

/-- The natural nearest `n` that has no more than 53 significant bits, a half
to the one with an even significand. -/
def nearest (n : Nat) : Nat :=
  roundDiv n (2 ^ (n.log2 - 52)) * 2 ^ (n.log2 - 52)

/-- The 53 bits of a natural that has no more. -/
def significand (n : Nat) : Nat := n * 2 ^ (52 - n.log2) / 2 ^ (n.log2 - 52)

/-- The float that a natural without more than 53 significant bits is. -/
def image (s : Sign) (n : Nat) : UnpackedFloat :=
  if h : 0 < significand n then .finite s (significand n) ((n.log2 : Int) - 52) h else .zero s

theorem log2_mul_two_pow (hn : n ≠ 0) (k : Nat) : (n * 2 ^ k).log2 = n.log2 + k := by
  induction k with
  | zero => rw [Nat.pow_zero, Nat.mul_one, Nat.add_zero]
  | succ k ih =>
    have hpos : n * 2 ^ k ≠ 0 := Nat.mul_ne_zero hn (Nat.two_pow_pos k).ne'
    have hpow : n * 2 ^ (k + 1) = 2 * (n * 2 ^ k) := by rw [Nat.pow_succ]; ring
    rw [hpow, Nat.log2_two_mul hpos, ih, Nat.add_assoc]

/-- Bounds on a natural bound its bits, zero included. -/
theorem log2_lt_of_lt {k : Nat} (hk : 0 < k) (h : n < 2 ^ k) : n.log2 < k := by
  rcases Nat.eq_zero_or_pos n with rfl | hpos
  · exact hk
  · exact (Nat.log2_lt hpos.ne').mpr h

/-- **The float of a natural is found by scaling it to 53 bits.** -/
theorem image_eq {i j : Nat} (hlow : 2 ^ 52 ≤ q) (hhigh : q < 2 ^ 53) (hpos : 0 < q)
    (h : n * 2 ^ j = q * 2 ^ i) : image s n = .finite s q ((i : Int) - j) hpos := by
  have hn : n ≠ 0 := by
    rintro rfl
    have := Nat.mul_pos hpos (Nat.two_pow_pos i)
    omega
  have hlog : n.log2 + j = 52 + i := by
    rw [← log2_mul_two_pow hn, h, log2_mul_two_pow hpos.ne', log2_of_mem hlow hhigh]
  have hsignificand : significand n = q := by
    rw [significand]
    rcases Nat.le_total j i with hji | hij
    · -- The natural has bits to spare, which are zero.
      obtain ⟨t, rfl⟩ := Nat.exists_eq_add_of_le hji
      have hfewer : 52 - n.log2 = 0 := by omega
      have hspare : n.log2 - 52 = t := by omega
      have hvalue : n = q * 2 ^ t := by
        refine Nat.eq_of_mul_eq_mul_right (Nat.two_pow_pos j) ?_
        rw [h, Nat.pow_add]
        ring
      rw [hfewer, hspare, hvalue, Nat.pow_zero, Nat.mul_one,
        Nat.mul_div_cancel _ (Nat.two_pow_pos t)]
    · obtain ⟨t, rfl⟩ := Nat.exists_eq_add_of_le hij
      have hfewer : 52 - n.log2 = t := by omega
      have hspare : n.log2 - 52 = 0 := by omega
      have hvalue : n * 2 ^ t = q := by
        refine Nat.eq_of_mul_eq_mul_right (Nat.two_pow_pos i) ?_
        rw [← h, Nat.pow_add]
        ring
      rw [hfewer, hspare, hvalue, Nat.pow_zero, Nat.div_one]
  have hexponent : (n.log2 : Int) - 52 = (i : Int) - j := by omega
  rw [image, dif_pos (hsignificand.symm ▸ hpos)]
  simp only [hsignificand, hexponent]

/-- The nearest natural in the steps in which a scaled one is rounded. -/
theorem nearest_scaled {k j : Nat} (hk : n.log2 + j = 52 + k) :
    nearest n * 2 ^ j = roundDiv (n * 2 ^ j) (2 ^ k) * 2 ^ k := by
  rw [nearest]
  rcases Nat.le_total n.log2 52 with hsmall | hlarge
  · obtain ⟨t, rfl⟩ : ∃ t, j = k + t := Nat.exists_eq_add_of_le (by omega)
    have hspare : n.log2 - 52 = 0 := by omega
    have hscaled : n * 2 ^ (k + t) = n * 2 ^ t * 2 ^ k := by
      rw [Nat.pow_add]
      ring
    rw [hspare, roundDiv_of_dvd (Nat.two_pow_pos 0) (Nat.one_dvd n),
      roundDiv_of_dvd (Nat.two_pow_pos k) ⟨n * 2 ^ t, by rw [hscaled, Nat.mul_comm]⟩, hscaled,
      Nat.mul_div_cancel _ (Nat.two_pow_pos k), Nat.pow_zero, Nat.div_one, Nat.mul_one, hscaled]
  · have hspare : k = n.log2 - 52 + j := by omega
    rw [hspare, Nat.pow_add, roundDiv_mul_right _ (Nat.two_pow_pos j)]
    ring

/-- A quotient of 53 bits is rounded to 53 bits, or carries into one more. -/
theorem exists_carry {k : Nat} (hlog : m.log2 = 52 + k) (hm : m ≠ 0) :
    ∃ c ≤ 1, (roundDiv m (2 ^ k)).log2 = 52 + c ∧ 2 ^ 52 ≤ roundDiv m (2 ^ k) / 2 ^ c ∧
      roundDiv m (2 ^ k) / 2 ^ c < 2 ^ 53 ∧
        roundDiv m (2 ^ k) / 2 ^ c * 2 ^ c = roundDiv m (2 ^ k) := by
  obtain ⟨hlow, hhigh⟩ := (Nat.log2_eq_iff hm).mp hlog
  have hquotient : 2 ^ 52 ≤ m / 2 ^ k ∧ m / 2 ^ k < 2 ^ 53 := by
    rw [Nat.le_div_iff_mul_le (Nat.two_pow_pos k), Nat.div_lt_iff_lt_mul (Nat.two_pow_pos k),
      ← Nat.pow_add, ← Nat.pow_add]
    exact ⟨hlow, by rwa [Nat.add_right_comm] at hhigh⟩
  obtain ⟨hdown, hup⟩ := roundDiv_mem m (2 ^ k)
  rcases Nat.lt_or_ge (roundDiv m (2 ^ k)) (2 ^ 53) with hfits | hcarry
  · refine ⟨0, by decide, log2_of_mem (by omega) hfits, ?_, ?_, ?_⟩ <;> omega
  · -- Only the least number of 54 bits can be carried into.
    have hpower : roundDiv m (2 ^ k) = 2 ^ 53 := by omega
    rw [hpower]
    exact ⟨1, by decide, by decide, by decide, by decide, by decide⟩

/-- **Rounding a scaled natural is rounding the natural.** -/
theorem round_scaled (hn : n ≠ 0) {j : Nat} (hj : 52 ≤ n.log2 + j) :
    roundWithAccuracy .binary64 s (n * 2 ^ j) (-j) .exact = image s (nearest n) := by
  obtain ⟨k, hk⟩ : ∃ k, n.log2 + j = 52 + k := Nat.exists_eq_add_of_le hj
  have hlog : (n * 2 ^ j).log2 = 52 + k := by rw [log2_mul_two_pow hn, hk]
  have hne : n * 2 ^ j ≠ 0 := Nat.mul_ne_zero hn (Nat.two_pow_pos j).ne'
  obtain ⟨c, -, hcarry, hlow, hhigh, hvalue⟩ := exists_carry hlog hne
  have hpos : 0 < roundDiv (n * 2 ^ j) (2 ^ k) / 2 ^ c := by omega
  have himage : nearest n * 2 ^ j =
      roundDiv (n * 2 ^ j) (2 ^ k) / 2 ^ c * 2 ^ (k + c) := by
    rw [nearest_scaled hk, Nat.add_comm k c, Nat.pow_add, ← Nat.mul_assoc, hvalue]
  rw [roundWithAccuracy_exact hlog (by omega) rfl hcarry hpos, image_eq hlow hhigh hpos himage]
  congr 1
  omega

/-! ## Bounds -/

/-- A natural is its own nearest up to 53 bits. -/
theorem nearest_of_lt (h : n < 2 ^ 53) : nearest n = n := by
  have hspare : n.log2 - 52 = 0 := by
    have := log2_lt_of_lt (by decide) h
    omega
  rw [nearest, hspare, roundDiv_of_dvd (Nat.two_pow_pos 0) (Nat.one_dvd n), Nat.pow_zero,
    Nat.div_one, Nat.mul_one]

/-- A natural has 53 significant bits and zeros after them, at most. -/
def Round (n : Nat) : Prop := 2 ^ (n.log2 - 52) ∣ n

/-- The nearest natural has no more than 53 significant bits, and as many bits
as the natural or, when it is a power of two, one more. -/
theorem nearest_spec (hn : n ≠ 0) :
    nearest n ≠ 0 ∧ Round (nearest n) ∧
      n.log2 ≤ (nearest n).log2 ∧ (nearest n).log2 ≤ n.log2 + 1 := by
  have hlog : (n * 2 ^ 52).log2 = 52 + n.log2 := by rw [log2_mul_two_pow hn, Nat.add_comm]
  have hne : n * 2 ^ 52 ≠ 0 := Nat.mul_ne_zero hn (by decide)
  obtain ⟨c, hc, -, hlow, hhigh, hvalue⟩ := exists_carry hlog hne
  generalize hm : roundDiv (n * 2 ^ 52) (2 ^ n.log2) / 2 ^ c = m at hlow hhigh hvalue
  have hscaled : nearest n * 2 ^ 52 = m * 2 ^ (n.log2 + c) := by
    rw [nearest_scaled (Nat.add_comm _ _), ← hvalue, Nat.add_comm n.log2 c, Nat.pow_add,
      Nat.mul_assoc]
  have hnearest : nearest n ≠ 0 := by
    intro hzero
    have hpos : 0 < m * 2 ^ (n.log2 + c) := Nat.mul_pos (by omega) (Nat.two_pow_pos _)
    omega
  have hlog' : (nearest n).log2 = n.log2 + c := by
    have h := congrArg Nat.log2 hscaled
    rw [log2_mul_two_pow hnearest, log2_mul_two_pow (by omega), log2_of_mem hlow hhigh] at h
    omega
  refine ⟨hnearest, ?_, by omega, by omega⟩
  rw [Round, hlog']
  rcases Nat.lt_or_ge (n.log2 + c) 52 with hfew | hmany
  · rw [Nat.sub_eq_zero_of_le hfew.le]
    exact Nat.one_dvd _
  · refine Nat.dvd_of_mul_dvd_mul_right (Nat.two_pow_pos 52) ?_
    rw [hscaled, ← Nat.pow_add, Nat.sub_add_cancel hmany]
    exact Nat.dvd_mul_left _ m

/-- **The nearest natural is nearest**: no natural of no more than 53
significant bits is closer. -/
theorem nearest_closest (hm : Round m) :
    ((n : Int) - nearest n).natAbs ≤ ((n : Int) - m).natAbs := by
  rcases Nat.eq_zero_or_pos n with rfl | hpos
  · exact Nat.zero_le _
  have hclosest := roundDiv_closest (n := n) (Nat.two_pow_pos (n.log2 - 52))
  rcases Nat.lt_or_ge m.log2 n.log2 with hless | hmore
  · -- The least number with as many bits is closer, and in steps of the same size.
    have hpower : 2 ^ (n.log2 - (n.log2 - 52)) * 2 ^ (n.log2 - 52) = 2 ^ n.log2 := by
      rw [← Nat.pow_add, Nat.sub_add_cancel (Nat.sub_le _ _)]
    have hbetween : m < 2 ^ n.log2 := by
      rcases Nat.eq_zero_or_pos m with rfl | hmpos
      · exact Nat.two_pow_pos _
      · exact (Nat.log2_lt hmpos.ne').mp hless
    have hlow : 2 ^ n.log2 ≤ n := Nat.log2_self_le hpos.ne'
    have hstep := hclosest (2 ^ (n.log2 - (n.log2 - 52)))
    rw [hpower] at hstep
    rw [nearest]
    omega
  · -- A number with as many bits or more is a multiple of the step of `n`.
    obtain ⟨q, hq⟩ : 2 ^ (n.log2 - 52) ∣ m :=
      Nat.dvd_trans (Nat.pow_dvd_pow 2 (by omega)) hm
    rw [hq, Nat.mul_comm]
    exact hclosest q

/-! ## Images -/

theorem significand_spec (hn : n ≠ 0) : 2 ^ 52 ≤ significand n ∧ significand n < 2 ^ 53 := by
  obtain ⟨hlow, hhigh⟩ := (Nat.log2_eq_iff hn).mp rfl
  rw [significand]
  rcases Nat.le_total n.log2 52 with hfew | hmany
  · -- The natural is scaled up to 53 bits.
    have hlog : (n * 2 ^ (52 - n.log2)).log2 = 52 := by
      rw [log2_mul_two_pow hn]
      omega
    have hne : n * 2 ^ (52 - n.log2) ≠ 0 := Nat.mul_ne_zero hn (Nat.two_pow_pos _).ne'
    rw [Nat.sub_eq_zero_of_le hfew, Nat.pow_zero, Nat.div_one]
    exact (Nat.log2_eq_iff hne).mp hlog
  · obtain ⟨k, hk⟩ : ∃ k, n.log2 = 52 + k := Nat.exists_eq_add_of_le hmany
    rw [hk, Nat.sub_eq_zero_of_le (by omega), Nat.pow_zero, Nat.mul_one, Nat.add_sub_cancel_left,
      Nat.le_div_iff_mul_le (Nat.two_pow_pos k), Nat.div_lt_iff_lt_mul (Nat.two_pow_pos k),
      ← Nat.pow_add, ← Nat.pow_add]
    rw [hk] at hlow hhigh
    exact ⟨hlow, by rwa [Nat.add_right_comm] at hhigh⟩

theorem image_of_ne_zero (s : Sign) (hn : n ≠ 0) : ∃ h : 0 < significand n,
    image s n = .finite s (significand n) ((n.log2 : Int) - 52) h := by
  have hpos : 0 < significand n := by
    have := (significand_spec hn).1
    omega
  exact ⟨hpos, dif_pos hpos⟩

/-- A natural in range is unpacked as it was packed. -/
theorem unpack_pack_image (s : Sign) (h : n.log2 < 1024) :
    (Float.Model.pack (image s n)).unpack = image s n := by
  rcases Nat.eq_zero_or_pos n with rfl | hpos
  · exact unpack_pack_zero s
  · obtain ⟨hsignificand, himage⟩ := image_of_ne_zero s hpos.ne'
    obtain ⟨hlow, hhigh⟩ := significand_spec hpos.ne'
    rw [himage, unpack_pack_finite ⟨hlow, hhigh, by omega, by omega⟩]

theorem unpack_pack_nearest (s : Sign) (h : n.log2 < 1023) :
    (Float.Model.pack (image s (nearest n))).unpack = image s (nearest n) := by
  refine unpack_pack_image s ?_
  rcases Nat.eq_zero_or_pos n with rfl | hpos
  · decide
  · have := (nearest_spec hpos.ne').2.2.2
    omega

/-- The bits of a natural and their number are the natural. -/
theorem eq_of_significand_eq {n' : Nat} (hn : Round n) (hn' : Round n') (hlog : n.log2 = n'.log2)
    (h : significand n = significand n') : n = n' := by
  have hscaled : ∀ {n}, Round n →
      significand n * 2 ^ (n.log2 - 52) = n * 2 ^ (52 - n.log2) := fun hn =>
    Nat.div_mul_cancel (Nat.dvd_mul_right_of_dvd hn _)
  refine Nat.eq_of_mul_eq_mul_right (Nat.two_pow_pos (52 - n.log2)) ?_
  rw [← hscaled hn, h, hlog, hscaled hn']

/-- Finite floats of one sign are equal when their parts are. -/
theorem finite_beq_iff {m' : Nat} {e' : Int} {h : 0 < m} {h' : 0 < m'} :
    (UnpackedFloat.finite s m e h).beq (.finite s m' e' h') = true ↔ e = e' ∧ m = m' := by
  rw [UnpackedFloat.beq_iff_ne_notANumber_and_eq, UnpackedFloat.finite.injEq]
  simp [and_comm]

/-- **Naturals of no more than 53 significant bits are told apart**, and so are
their signs, but for those of zero. -/
theorem image_beq_iff {s s' : Sign} {n n' : Nat} (hn : Round n) (hn' : Round n') :
    (image s n).beq (image s' n') = true ↔ s.apply n = s'.apply n' := by
  have happly : ∀ {s : Sign} {n : Nat}, s.apply n = 0 ↔ n = 0 := fun {s n} => by
    cases s <;> simp [Sign.apply]
  rcases Nat.eq_zero_or_pos n with rfl | hpos <;> rcases Nat.eq_zero_or_pos n' with rfl | hpos'
  · exact iff_of_true rfl ((happly.mpr rfl).trans (happly.mpr rfl).symm)
  · obtain ⟨hsignificand, himage⟩ := image_of_ne_zero s' hpos'.ne'
    refine iff_of_false ?_ fun h => hpos'.ne' (happly.mp (h.symm.trans (happly.mpr rfl)))
    rw [himage]
    cases s' <;> nofun
  · obtain ⟨hsignificand, himage⟩ := image_of_ne_zero s hpos.ne'
    refine iff_of_false ?_ fun h => hpos.ne' (happly.mp (h.trans (happly.mpr rfl)))
    rw [himage]
    cases s <;> nofun
  · obtain ⟨hsignificand, himage⟩ := image_of_ne_zero s hpos.ne'
    obtain ⟨hsignificand', himage'⟩ := image_of_ne_zero s' hpos'.ne'
    rw [himage, himage']
    have hsame : (UnpackedFloat.finite s (significand n) ((n.log2 : Int) - 52) hsignificand).beq
        (.finite s (significand n') ((n'.log2 : Int) - 52) hsignificand') = true ↔ n = n' := by
      rw [finite_beq_iff]
      refine ⟨fun ⟨hlog, h⟩ => eq_of_significand_eq hn hn' (by omega) h, ?_⟩
      rintro rfl
      exact ⟨rfl, rfl⟩
    cases s <;> cases s'
    · exact hsame.trans (by simp only [Sign.apply]; omega)
    · exact iff_of_false nofun (by simp only [Sign.apply]; omega)
    · exact iff_of_false nofun (by simp only [Sign.apply]; omega)
    · exact hsame.trans (by simp only [Sign.apply]; omega)

end Binary64

end DataQuality
