import DataQuality.Proofs.Time.Ticks
import DataQuality.Table.Entry
/-!
# Moments — the points in time that entries tell

Columns count time in seconds, in thousandths, millionths or billionths of a second,
or in days, forward from the epoch or back. Such an entry is the instant of its point
in time, exactly, or a fault that names the number in the column, and which of them
is decided by the years of the time line alone (`Entry.tells_its_instant`). So
entries of different columns can be compared, whatever each counts in.
-/

namespace DataQuality

open Time (InYears Instant)

/-- Seconds and days fill no more than 64 bits. -/
theorem toInt_mul_daySeconds (days : Int32) :
    (days.toInt64 * 86400).toInt = days.toInt * Entry.daySeconds := by
  have hlow := days.le_toInt
  have hhigh := days.toInt_lt
  have hproduct : (days.toInt64 * 86400).toInt = (days.toInt * 86400).bmod (2 ^ 64) := by
    rw [Int64.toInt_mul, Int32.toInt_toInt64]
    rfl
  rw [hproduct, Int.bmod_eq_of_le (by omega) (by omega)]
  rfl

namespace Entry

variable {e : Entry} {raw : Int} {x : ℚ} {found : Option Instant}

/-- How many ticks a second may have: seconds, and the thousandths, millionths and
billionths of one. Dates in thousandths are timestamps of that rate. -/
def rates : List Nat := [1, 1000, 1000000, 1000000000]

/-- The entry tells the point `x`, in seconds from the epoch; `raw` is the number that
stands in the column. -/
inductive Tells : Entry → Int → ℚ → Prop where
  | ticks {rate : Nat} (hrate : rate ∈ rates) (n : Int64) :
    Tells (timestamp rate n) n.toInt (n.toInt / rate)
  | days (n : Int32) : Tells (date n) n.toInt (n.toInt * 86400)

/-! ## Nanoseconds -/

/-- A tick is a whole number of nanoseconds. -/
theorem exists_scale {rate : Nat} (h : rate ∈ rates) : ∃ scale, rate * scale = 1000000000 := by
  have hdvd : ∀ rate ∈ rates, rate ∣ 1000000000 := by decide
  obtain ⟨scale, hscale⟩ := hdvd rate h
  exact ⟨scale, hscale.symm⟩

/-- **What an entry tells is a whole number of nanoseconds**, and its value the
instant after so many. -/
theorem Tells.exists_nanos (h : e.Tells raw x) :
    ∃ nanos : Int, x = nanos / 1000000000 ∧ e.value = dateTime raw (Instant.ofNanos? nanos) := by
  cases h with
  | @ticks rate hrate n =>
    obtain ⟨scale, hscale⟩ := exists_scale hrate
    have hunit : (rate * scale : ℚ) = 1000000000 := by exact_mod_cast hscale
    have hne : (scale : ℚ) ≠ 0 := by
      intro hzero
      rw [hzero, mul_zero] at hunit
      norm_num at hunit
    refine ⟨n.toInt * scale, ?_, by rw [value, Instant.ofTicks?_eq hscale]⟩
    rw [← hunit]
    push_cast
    exact (mul_div_mul_right _ _ hne).symm
  | days n =>
    refine ⟨n.toInt * daySeconds * 1000000000, ?_, by rw [value, Instant.ofParts?_eq]⟩
    rw [daySeconds]
    push_cast
    ring

/-! ## Values -/

/-- The fault of a point in time that no instant has. -/
def outOfRange (raw : Int) : Fault :=
  .dataSource "DataFusion"
    ("Timestamp " ++ String.ofList (Decimal.integerText raw) ++ " is out of range") none

theorem dateTime_eq_ok_iff {v : Value} :
    dateTime raw found = .ok v ↔ ∃ t, found = some t ∧ v = .dateTime t := by
  cases found with
  | none => simp [dateTime]
  | some t => simp [dateTime, eq_comm]

theorem dateTime_eq_error_iff {fault : Fault} :
    dateTime raw found = .error fault ↔ (¬∃ t, found = some t) ∧ fault = outOfRange raw := by
  cases found with
  | none => simp [dateTime, outOfRange, eq_comm]
  | some t => simp [dateTime]

theorem Tells.value_eq_ok_iff (h : e.Tells raw x) {v : Value} :
    e.value = .ok v ↔ ∃ t : Instant, v = .dateTime t ∧ t.Regular ∧ t.moment = x := by
  obtain ⟨nanos, rfl, hvalue⟩ := h.exists_nanos
  rw [hvalue, dateTime_eq_ok_iff]
  refine exists_congr fun t => ?_
  rw [Instant.ofNanos?_eq_some_iff_moment, and_comm]

theorem Tells.value_eq_error_iff (h : e.Tells raw x) {fault : Fault} :
    e.value = .error fault ↔ ¬InYears x ∧ fault = outOfRange raw := by
  obtain ⟨nanos, rfl, hvalue⟩ := h.exists_nanos
  rw [hvalue, dateTime_eq_error_iff, Instant.exists_ofNanos?_iff_inYears]

/-- The instants of two entries are those of the points they tell. -/
theorem Tells.regular_and_moment (h : e.Tells raw x) {t : Instant}
    (ht : e.value = .ok (.dateTime t)) : t.Regular ∧ t.moment = x := by
  obtain ⟨t', hsame, ht'⟩ := h.value_eq_ok_iff.mp ht
  obtain rfl := Value.dateTime.inj hsame
  exact ht'

/-- Billionths of a second that 64 bits hold do not leave the years. -/
theorem inYears_of_billionths (n : Int64) : InYears (n.toInt / 1000000000) := by
  have hlow := n.le_toInt
  have hhigh := n.toInt_lt
  refine Instant.exists_ofNanos?_iff_inYears.mp (Instant.exists_ofNanos?_iff.mpr ⟨?_, ?_⟩)
  · have hmin : Time.minSeconds * 1000000000 ≤ -2 ^ 63 := by decide
    omega
  · have hmax : 2 ^ 63 ≤ (Time.maxSeconds + 1) * 1000000000 := by decide
    omega

/-- **Entries that tell time are exact instants.** The value of such an entry is the
instant of its point, which lies in no leap second; there is none just when the point
lies outside the years, and then the fault names the number in the column. The seconds
of a date fit 64 bits, and billionths of a second always have an instant. Two
instants that entries have are equal as their points are, and stand in their order. -/
theorem tells_its_instant (h : e.Tells raw x) :
    (∀ v, e.value = .ok v ↔
      ∃ t : Instant, v = .dateTime t ∧ t.nanos ≤ 999999999 ∧ t.moment = x) ∧
    (∀ fault, e.value = .error fault ↔
      ¬InYears x ∧ fault = .dataSource "DataFusion"
        ("Timestamp " ++ String.ofList (Decimal.integerText raw) ++ " is out of range") none) ∧
    (∀ days, e = date days → (days.toInt64 * 86400).toInt = days.toInt * daySeconds) ∧
    (∀ ticks, e = timestamp 1000000000 ticks → ∃ v, e.value = .ok v) ∧
    ∀ {e' : Entry} {raw' : Int} {x' : ℚ} {t t' : Instant}, e'.Tells raw' x' →
      e.value = .ok (.dateTime t) → e'.value = .ok (.dateTime t') →
      (t ≤ t' ↔ x ≤ x') ∧ (t = t' ↔ x = x') := by
  refine ⟨fun v => ?_, fun fault => h.value_eq_error_iff, fun days _ => toInt_mul_daySeconds days,
    ?_, ?_⟩
  · have hregular (t : Instant) : t.Regular ↔ t.nanos ≤ 999999999 := by
      rw [Instant.Regular]
      omega
    simp only [h.value_eq_ok_iff, hregular]
  · rintro ticks rfl
    cases hvalue : (timestamp 1000000000 ticks).value with
    | ok v => exact ⟨v, rfl⟩
    | error fault =>
      have htells : Tells (timestamp 1000000000 ticks) ticks.toInt (ticks.toInt / 1000000000) :=
        .ticks (by decide) ticks
      exact absurd (inYears_of_billionths ticks) (htells.value_eq_error_iff.mp hvalue).1
  · intro e' raw' x' t t' h' ht ht'
    obtain ⟨hregular, rfl⟩ := h.regular_and_moment ht
    obtain ⟨hregular', rfl⟩ := h'.regular_and_moment ht'
    exact ⟨Instant.le_iff_moment hregular hregular', Instant.eq_iff_moment hregular hregular'⟩

/-- The day before the epoch begins before its last thousandth of a second, which is
not cut to a whole second. -/
theorem day_before_epoch_tells :
    (date (-1)).Tells (-1) (-86400) ∧ (timestamp 1000 (-1)).Tells (-1) (-1 / 1000) ∧
    ∃ t t' : Instant, (date (-1)).value = .ok (.dateTime t) ∧
      (timestamp 1000 (-1)).value = .ok (.dateTime t') ∧
      t'.seconds = -1 ∧ t'.nanos = 999000000 ∧ t ≤ t' ∧ t ≠ t' := by
  have hday : (date (-1)).Tells (-1) (-86400) := by
    have h := Tells.days (-1)
    rw [show (-1 : Int32).toInt = -1 by decide] at h
    norm_num at h
    exact h
  have hlast : (timestamp 1000 (-1)).Tells (-1) (-1 / 1000) := by
    have h : (timestamp 1000 (-1)).Tells _ _ := .ticks (by decide) (-1)
    rw [show (-1 : Int64).toInt = -1 by decide] at h
    norm_num at h ⊢
    exact h
  let t : Instant := ⟨-86400, 0, by decide, by decide, by decide, by decide⟩
  let t' : Instant := ⟨-1, 999000000, by decide, by decide, by decide, by decide⟩
  have ht : (date (-1)).value = .ok (.dateTime t) :=
    ((tells_its_instant hday).1 _).mpr ⟨t, rfl, by decide, by norm_num [t, Instant.moment]⟩
  have ht' : (timestamp 1000 (-1)).value = .ok (.dateTime t') :=
    ((tells_its_instant hlast).1 _).mpr ⟨t', rfl, by decide, by norm_num [t', Instant.moment]⟩
  have horder := (tells_its_instant hday).2.2.2.2 hlast ht ht'
  refine ⟨hday, hlast, t, t', ht, ht', rfl, rfl, ?_, ?_⟩
  · rw [horder.1]
    norm_num
  · rw [ne_eq, horder.2]
    norm_num

end Entry

end DataQuality
