import DataQuality.Interval
import DataQuality.Proofs.Time.Difference
/-!
# Conversion — seconds in a unit, held against a threshold

A conversion goes from unit to unit and cuts at each step, and still comes to
one division by the length of the unit (`TimeUnit.toInt_convert`). No step
leaves the 64 bits (`TimeUnit.convert?_eq`), and more seconds are never fewer
units (`TimeUnit.convert_le_convert`); so many units are reached just when
there are the seconds for all of them (`TimeUnit.le_convert_iff`). A
comparison is one of integers (`Comparison.holds_eq`); turned round it holds
of the two with their signs changed (`Comparison.mirror_relates`), and of
less, equal and greater exactly one holds (`Comparison.countP_relates`).
-/

namespace DataQuality

namespace Interval

/-- **Two divisions toward zero are one.** What the first cuts off is less
than one whole part for the second. -/
theorem tdiv_tdiv (n : Int) {a b : Int} (ha : 0 ≤ a) :
    (n.tdiv a).tdiv b = n.tdiv (a * b) := by
  have hnonneg : ∀ m : Int, 0 ≤ m → (m.tdiv a).tdiv b = m.tdiv (a * b) := by
    intro m hm
    have hquotient : 0 ≤ m / a := Int.ediv_nonneg hm ha
    rw [Int.tdiv_eq_ediv_of_nonneg hm, Int.tdiv_eq_ediv_of_nonneg hquotient,
      Int.tdiv_eq_ediv_of_nonneg hm, Int.ediv_ediv_of_nonneg ha]
  rcases Int.le_total 0 n with hn | hn
  · exact hnonneg n hn
  · have h := hnonneg (-n) (by omega)
    rw [Int.neg_tdiv, Int.neg_tdiv, Int.neg_tdiv] at h
    omega

namespace TimeUnit

/-- The seconds of a unit. -/
def length : TimeUnit → Int
  | seconds => 1
  | minutes => 60
  | hours => 3600
  | days => 86400
  | weeks => 7 * 86400
  | months => 30 * 86400
  | years => 365 * 86400

theorem length_pos (u : TimeUnit) : 0 < u.length := by
  cases u <;> decide

/-- One step of a conversion is a division toward zero; the divisors are not
`-1`, so it cannot overflow. -/
theorem toInt_div {n step : Int64} (hstep : 0 < step.toInt) :
    (n / step).toInt = n.toInt.tdiv step.toInt := by
  apply Int64.toInt_div_of_ne_right
  rintro rfl
  exact absurd hstep (by decide)

/-- **A conversion is one division toward zero** by the length of the unit. -/
theorem toInt_convert (u : TimeUnit) (total : Int64) :
    (u.convert total).toInt = total.toInt.tdiv u.length := by
  have hminutes : (total / 60).toInt = total.toInt.tdiv 60 := toInt_div (by decide)
  have hhours : (total / 60 / 60).toInt = total.toInt.tdiv 3600 := by
    rw [toInt_div (by decide), hminutes]
    exact tdiv_tdiv _ (by decide)
  have hdays : (total / 60 / 60 / 24).toInt = total.toInt.tdiv 86400 := by
    rw [toInt_div (by decide), hhours]
    exact tdiv_tdiv _ (by decide)
  have hmany : ∀ step : Int64, 0 < step.toInt →
      (total / 60 / 60 / 24 / step).toInt = total.toInt.tdiv (86400 * step.toInt) := by
    intro step hstep
    rw [toInt_div hstep, hdays]
    exact tdiv_tdiv _ (by decide)
  cases u with
  | seconds => exact (Int.tdiv_one _).symm
  | minutes => exact hminutes
  | hours => exact hhours
  | days => exact hdays
  | weeks => exact hmany 7 (by decide)
  | months => exact hmany 30 (by decide)
  | years => exact hmany 365 (by decide)

/-! ## Steps that may fail -/

/-- A division toward zero, where there is a quotient and 64 bits hold it: they do
not hold that of the least number and minus one. -/
def divide? (n step : Int64) : Option Int64 :=
  let quotient := n.toInt.tdiv step.toInt
  if step ≠ 0 ∧ Int64.minValue.toInt ≤ quotient ∧ quotient ≤ Int64.maxValue.toInt then
    some (Int64.ofInt quotient)
  else none

/-- A number of seconds in the unit, where each step may fail. The steps to
days are taken for every unit, needed or not. -/
def convert? (u : TimeUnit) (total : Int64) : Option Int64 := do
  let inMinutes ← divide? total 60
  let inHours ← divide? inMinutes 60
  let inDays ← divide? inHours 24
  match u with
  | seconds => return total
  | minutes => return inMinutes
  | hours => return inHours
  | days => return inDays
  | weeks => divide? inDays 7
  | months => divide? inDays 30
  | years => divide? inDays 365

/-- The quotient by a number above zero is one of 64 bits. -/
theorem divide?_eq (n : Int64) {step : Int64} (hstep : 0 < step.toInt) :
    divide? n step = some (n / step) := by
  have hquotient : (n / step).toInt = n.toInt.tdiv step.toInt := toInt_div hstep
  have hnonzero : step ≠ 0 := by
    rintro rfl
    exact absurd hstep (by decide)
  simp only [divide?, ← hquotient]
  rw [if_pos ⟨hnonzero, (n / step).minValue_le_toInt, (n / step).toInt_le⟩, Int64.ofInt_toInt]

/-- **No step of a conversion fails.** -/
theorem convert?_eq (u : TimeUnit) (total : Int64) : u.convert? total = some (u.convert total) := by
  have hminutes : divide? total 60 = some (total / 60) := divide?_eq _ (by decide)
  have hhours : divide? (total / 60) 60 = some (total / 60 / 60) := divide?_eq _ (by decide)
  have hdays : divide? (total / 60 / 60) 24 = some (total / 60 / 60 / 24) :=
    divide?_eq _ (by decide)
  simp only [convert?, hminutes, hhours, hdays, Option.bind_eq_bind, Option.bind_some]
  cases u with
  | seconds => rfl
  | minutes => rfl
  | hours => rfl
  | days => rfl
  | weeks => exact divide?_eq _ (by decide)
  | months => exact divide?_eq _ (by decide)
  | years => exact divide?_eq _ (by decide)

/-! ## Order -/

/-- **More seconds are never fewer units.** -/
theorem convert_le_convert (u : TimeUnit) {a b : Int64} (h : a ≤ b) :
    u.convert a ≤ u.convert b := by
  rw [Int64.le_iff_toInt_le] at h ⊢
  rw [toInt_convert, toInt_convert]
  exact Int.tdiv_le_tdiv u.length_pos h

/-- **So many units are reached** just when there are the seconds for them. -/
theorem le_convert_iff (u : TimeUnit) (total : Int64) {threshold : Int} (h : 0 < threshold) :
    threshold ≤ (u.convert total).toInt ↔ threshold * u.length ≤ total.toInt := by
  rw [toInt_convert]
  exact Time.le_tdiv_iff u.length_pos h

/-- **A conversion is one division.** Each of its steps has a quotient of 64
bits, and what comes of them is the seconds divided once by the length of the
unit and cut toward zero. So it keeps the order of the seconds, and reaches a
threshold above zero at the very second at which that many units are over. -/
theorem conversion_is_one_division (u : TimeUnit) :
    (∀ total, u.convert? total = some (u.convert total) ∧
      (u.convert total).toInt = total.toInt.tdiv u.length) ∧
    (∀ earlier later, earlier ≤ later → u.convert earlier ≤ u.convert later) ∧
    ∀ total (threshold : Int), 0 < threshold →
      (threshold ≤ (u.convert total).toInt ↔ threshold * u.length ≤ total.toInt) := by
  refine ⟨fun total => ⟨u.convert?_eq total, u.toInt_convert total⟩, ?_, ?_⟩
  · intro earlier later hle
    exact u.convert_le_convert hle
  · intro total threshold hpos
    exact u.le_convert_iff total hpos

/-- The least and the greatest number of seconds come to as many years, on either
side of zero. -/
theorem years_of_64_bits :
    years.convert? Int64.minValue = some (-292471208677) ∧
    Int64.minValue ≤ Int64.maxValue ∧
    years.convert Int64.minValue ≤ years.convert Int64.maxValue ∧
    (0 : Int) < 292471208677 ∧ 292471208677 ≤ (years.convert Int64.maxValue).toInt ∧
    (0 : Int) < 292471208678 ∧ ¬292471208678 ≤ (years.convert Int64.maxValue).toInt := by
  obtain ⟨hone, horder, hreached⟩ := conversion_is_one_division years
  have hleast := (hone Int64.minValue).1
  have hle : Int64.minValue ≤ Int64.maxValue := by decide
  exact ⟨hleast.trans (by decide), hle, horder _ _ hle, by decide,
    (hreached Int64.maxValue 292471208677 (by decide)).mpr (by decide), by decide,
    fun h => absurd ((hreached Int64.maxValue 292471208678 (by decide)).mp h) (by decide)⟩

end TimeUnit

namespace Comparison

/-- What a comparison says of an interval and a threshold. -/
def Relates (c : Comparison) (interval threshold : Int) : Prop :=
  match c with
  | gteq => threshold ≤ interval
  | lteq => interval ≤ threshold
  | gt => threshold < interval
  | lt => interval < threshold
  | eq => interval = threshold

instance (c : Comparison) (interval threshold : Int) : Decidable (c.Relates interval threshold) :=
  match c with
  | gteq => inferInstanceAs (Decidable (threshold ≤ interval))
  | lteq => inferInstanceAs (Decidable (interval ≤ threshold))
  | gt => inferInstanceAs (Decidable (threshold < interval))
  | lt => inferInstanceAs (Decidable (interval < threshold))
  | eq => inferInstanceAs (Decidable (interval = threshold))

/-- **A comparison holds** where it does of the integers. -/
theorem holds_eq (c : Comparison) (interval threshold : Int64) :
    c.holds interval threshold = decide (c.Relates interval.toInt threshold.toInt) := by
  cases c with
  | gteq => exact decide_eq_decide.mpr Int64.le_iff_toInt_le
  | lteq => exact decide_eq_decide.mpr Int64.le_iff_toInt_le
  | gt => exact decide_eq_decide.mpr Int64.lt_iff_toInt_lt
  | lt => exact decide_eq_decide.mpr Int64.lt_iff_toInt_lt
  | eq => exact decide_eq_decide.mpr Int64.toInt_inj.symm

/-- The comparison turned round. -/
def mirror : Comparison → Comparison
  | gteq => lteq
  | lteq => gteq
  | gt => lt
  | lt => gt
  | eq => eq

/-- **Turned round, a comparison holds of the opposites.** -/
theorem mirror_relates (c : Comparison) (interval threshold : Int) :
    c.mirror.Relates (-interval) (-threshold) ↔ c.Relates interval threshold := by
  cases c <;> simp only [mirror, Relates] <;> omega

/-- **Exactly one of less, equal and greater holds.** -/
theorem countP_relates (interval threshold : Int) :
    [lt, eq, gt].countP (fun c => decide (c.Relates interval threshold)) = 1 := by
  simp only [List.countP_cons, List.countP_nil, decide_eq_true_eq]
  rcases Int.lt_trichotomy interval threshold with h | h | h
  · have hlt : lt.Relates interval threshold := h
    have heq : ¬eq.Relates interval threshold := Int.ne_of_lt h
    have hgt : ¬gt.Relates interval threshold := Int.lt_asymm h
    rw [if_pos hlt, if_neg heq, if_neg hgt]
  · have hlt : ¬lt.Relates interval threshold := Int.not_lt.mpr (Int.le_of_eq h.symm)
    have heq : eq.Relates interval threshold := h
    have hgt : ¬gt.Relates interval threshold := Int.not_lt.mpr (Int.le_of_eq h)
    rw [if_neg hlt, if_pos heq, if_neg hgt]
  · have hlt : ¬lt.Relates interval threshold := Int.lt_asymm h
    have heq : ¬eq.Relates interval threshold := Int.ne_of_gt h
    have hgt : gt.Relates interval threshold := h
    rw [if_neg hlt, if_neg heq, if_pos hgt]

theorem gteq_relates_iff {interval threshold : Int} :
    gteq.Relates interval threshold ↔ ¬lt.Relates interval threshold := Int.not_lt.symm

theorem lteq_relates_iff {interval threshold : Int} :
    lteq.Relates interval threshold ↔ ¬gt.Relates interval threshold := Int.not_lt.symm

end Comparison

end Interval

end DataQuality
