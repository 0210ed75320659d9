import DataQuality.Proofs.Time.Difference
import DataQuality.Time.Calendar
import Mathlib.Data.Rat.Cast.Order
import Mathlib.Algebra.Order.Field.Basic
import Mathlib.Tactic.NormNum
import Mathlib.Tactic.Ring
/-!
# Ticks — instants counted from the epoch

Outside leap seconds an instant is its number of nanoseconds since the epoch
(`ofNanos?_eq_some_iff`), and it is there just when that number lies within the
years of the time line (`exists_ofNanos?_iff`). Ticks of any rate that divides a
second into whole nanoseconds are nanoseconds (`ofTicks?_eq`): to divide a count
into seconds and a rest loses nothing, before the epoch as after it.

A point in time is a rational number of seconds, whatever it was counted in.
Instants outside leap seconds are equal as their points are, and stand in their
order (`eq_iff_moment`, `le_iff_moment`).
-/

namespace DataQuality

namespace Time

/-- The point in time lies in the years -262143 to 262142. -/
def InYears (x : ℚ) : Prop :=
  (Date.toDays ⟨-262143, 1, 1⟩ * 86400 : ℤ) ≤ x ∧ x < (Date.toDays ⟨262143, 1, 1⟩ * 86400 : ℤ)

/-- The years are those of the seconds an instant may have. -/
theorem inYears_iff {x : ℚ} : InYears x ↔ (minSeconds : ℚ) ≤ x ∧ x < (maxSeconds + 1 : ℤ) := by
  have hmin : Date.toDays ⟨-262143, 1, 1⟩ * 86400 = minSeconds := by decide
  have hmax : Date.toDays ⟨262143, 1, 1⟩ * 86400 = maxSeconds + 1 := by decide
  rw [InYears, hmin, hmax]

namespace Instant

variable {s t : Instant} {n : Int}

/-! ## Nanoseconds -/

/-- The instant so many nanoseconds after the epoch, if it is in range. -/
def ofNanos? (n : Int) : Option Instant := ofParts? (n / 1000000000) (n % 1000000000).toNat

/-- **The instants outside leap seconds are their nanoseconds** since the epoch. -/
theorem ofNanos?_eq_some_iff : ofNanos? n = some t ↔ t.Regular ∧ t.sinceEpoch = n := by
  rw [ofNanos?, ofParts?, Regular, sinceEpoch]
  constructor
  · intro h
    split at h
    · obtain rfl := Option.some.inj h
      simp only
      omega
    · cases h
  · rintro ⟨hregular, rfl⟩
    have hseconds : (t.seconds * 1000000000 + t.nanos) / 1000000000 = t.seconds := by omega
    have hnanos : ((t.seconds * 1000000000 + t.nanos) % 1000000000).toNat = t.nanos := by omega
    simp only [hseconds, hnanos]
    exact dif_pos ⟨t.minSeconds_le, t.le_maxSeconds, t.nanos_lt, t.leap_ends_minute⟩

/-- There is such an instant just within the range of seconds. -/
theorem exists_ofNanos?_iff : (∃ t, ofNanos? n = some t) ↔
    minSeconds * 1000000000 ≤ n ∧ n < (maxSeconds + 1) * 1000000000 := by
  rw [ofNanos?, ofParts?]
  constructor
  · rintro ⟨t, h⟩
    split at h
    · omega
    · cases h
  · intro hrange
    have hparts : minSeconds ≤ n / 1000000000 ∧ n / 1000000000 ≤ maxSeconds ∧
        (n % 1000000000).toNat < 2000000000 ∧
        (1000000000 ≤ (n % 1000000000).toNat → n / 1000000000 % 60 = 59) := by
      omega
    exact ⟨_, dif_pos hparts⟩

/-! ## Ticks -/

/-- **Ticks are nanoseconds.** The seconds are cut toward the past, and the ticks that
are left count forward from there. -/
theorem ofTicks?_eq {rate scale : Nat} (h : rate * scale = 1000000000) (ticks : Int) :
    ofTicks? rate ticks = ofNanos? (ticks * scale) := by
  have hrate : 0 < rate := Nat.pos_of_mul_pos_right (b := scale) (by omega)
  have hscale : 0 < scale := Nat.pos_of_mul_pos_left (a := rate) (by omega)
  have hunit : (1000000000 : ℤ) = scale * rate := by
    rw [← Nat.cast_mul, Nat.mul_comm, h]
    rfl
  have hseconds : ticks * scale / 1000000000 = ticks / rate := by
    rw [hunit, Int.mul_comm ticks, Int.mul_ediv_mul_of_pos _ _ (by omega)]
  have hrest : ticks * scale % 1000000000 = ticks % rate * scale := by
    rw [hunit, Int.mul_comm ticks, Int.mul_emod_mul_of_pos _ _ (by omega), Int.mul_comm]
  have hnonneg : 0 ≤ ticks % rate := Int.emod_nonneg _ (by omega)
  have hnanos : (ticks % rate * scale).toNat = (ticks % rate).toNat * (1000000000 / rate) := by
    rw [Int.toNat_mul hnonneg (by omega), Int.toNat_natCast,
      Nat.div_eq_of_eq_mul_right hrate h.symm]
  rw [ofTicks?, ofNanos?, hseconds, hrest, hnanos]

/-- So are whole seconds. -/
theorem ofParts?_eq (seconds : Int) : ofParts? seconds 0 = ofNanos? (seconds * 1000000000) := by
  rw [ofNanos?, Int.mul_ediv_cancel _ (by decide), Int.mul_emod_left]
  rfl

/-! ## Points in time -/

/-- The seconds from the epoch to the instant. -/
def moment (t : Instant) : ℚ := t.seconds + t.nanos / 1000000000

theorem moment_eq (t : Instant) : t.moment = t.sinceEpoch / 1000000000 := by
  rw [moment, sinceEpoch]
  push_cast
  ring

theorem le_iff_moment (hs : s.Regular) (ht : t.Regular) : s ≤ t ↔ s.moment ≤ t.moment := by
  rw [le_iff_sinceEpoch hs ht, moment_eq, moment_eq, div_le_div_iff_of_pos_right (by norm_num),
    Int.cast_le]

theorem eq_iff_moment (hs : s.Regular) (ht : t.Regular) : s = t ↔ s.moment = t.moment := by
  constructor
  · intro h
    rw [h]
  · intro h
    have hnanos : s.sinceEpoch = t.sinceEpoch := by
      rw [moment_eq, moment_eq, div_left_inj' (by norm_num)] at h
      exact_mod_cast h
    have hfound := ofNanos?_eq_some_iff.mpr ⟨hs, hnanos⟩
    rw [ofNanos?_eq_some_iff.mpr ⟨ht, rfl⟩] at hfound
    exact (Option.some.inj hfound).symm

/-- The instant so many nanoseconds after the epoch is the one of that point. -/
theorem ofNanos?_eq_some_iff_moment :
    ofNanos? n = some t ↔ t.Regular ∧ t.moment = n / 1000000000 := by
  rw [ofNanos?_eq_some_iff, moment_eq, div_left_inj' (by norm_num), Int.cast_inj]

/-- **There is an instant for every point** of the years. -/
theorem exists_ofNanos?_iff_inYears :
    (∃ t, ofNanos? n = some t) ↔ InYears (n / 1000000000) := by
  rw [exists_ofNanos?_iff, inYears_iff, le_div_iff₀ (by norm_num), div_lt_iff₀ (by norm_num)]
  norm_cast

end Instant

end Time

end DataQuality
