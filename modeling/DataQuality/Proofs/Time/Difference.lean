import DataQuality.Time.Instant
/-!
# Differences — the time from one instant to another

Instants stand in the order of time, which between instants outside leap
seconds is that of their nanoseconds since the epoch (`le_iff_sinceEpoch`).
The whole seconds from one to another are cut toward zero, so what is less
than a second after an instant is no second away (`secondsSince_nonpos_iff`).
To exchange the two changes the sign and nothing else (`secondsSince_swap`),
leap seconds included, and no two instants are so far apart that 64 bits
would not hold the seconds (`toInt_secondsSince`).
-/

namespace DataQuality

namespace Time

/-- **A number cut toward zero has so many whole parts** just when all of them go
into it. One part is the least for this: below zero, too, a number may have none. -/
theorem le_tdiv_iff {n count part : Int} (hpart : 0 < part) (hcount : 0 < count) :
    count ≤ n.tdiv part ↔ count * part ≤ n := by
  constructor
  · intro h
    -- A negative number is cut to no part at all.
    have hnonneg : 0 ≤ n := by
      rcases Int.lt_or_le n 0 with hneg | hnonneg
      · have hnone := Int.tdiv_le_tdiv hpart (Int.le_of_lt hneg)
        rw [Int.zero_tdiv] at hnone
        omega
      · exact hnonneg
    calc count * part ≤ n.tdiv part * part :=
          Int.mul_le_mul_of_nonneg_right h (Int.le_of_lt hpart)
      _ ≤ n := by
          rw [Int.tdiv_eq_ediv_of_nonneg hnonneg]
          exact Int.ediv_mul_le n (Int.ne_of_gt hpart)
  · exact Int.le_tdiv_of_mul_le hpart

/-- Less than one whole part comes to nothing when it is cut toward zero. -/
theorem tdiv_nonpos_iff {n part : Int} (hpart : 0 < part) : n.tdiv part ≤ 0 ↔ n < part := by
  have hone := le_tdiv_iff (n := n) hpart Int.one_pos
  omega

namespace Instant

variable {s t : Instant}

/-! ## Order -/

/-- Instants in the order of time. A leap second comes after all of the
second that it follows. -/
instance : LE Instant where
  le s t := s.seconds < t.seconds ∨ s.seconds = t.seconds ∧ s.nanos ≤ t.nanos

theorem le_iff : s ≤ t ↔ s.seconds < t.seconds ∨ s.seconds = t.seconds ∧ s.nanos ≤ t.nanos :=
  Iff.rfl

instance (s t : Instant) : Decidable (s ≤ t) := decidable_of_iff _ le_iff.symm

/-- An instant that lies in no leap second. -/
def Regular (t : Instant) : Prop := t.nanos < 1000000000

instance : DecidablePred Regular := fun t =>
  inferInstanceAs (Decidable (t.nanos < 1000000000))

/-- The nanoseconds from the epoch to the instant, of which no leap second is
counted. -/
def sinceEpoch (t : Instant) : Int := t.seconds * 1000000000 + t.nanos

/-- Outside leap seconds the order of time is that of the nanoseconds since
the epoch. -/
theorem le_iff_sinceEpoch (hs : s.Regular) (ht : t.Regular) :
    s ≤ t ↔ s.sinceEpoch ≤ t.sinceEpoch := by
  rw [Regular] at hs ht
  rw [le_iff, sinceEpoch, sinceEpoch]
  omega

/-- The second instant comes after the first, but by less than a second. -/
def JustBefore (s t : Instant) : Prop :=
  s.sinceEpoch < t.sinceEpoch ∧ t.sinceEpoch - s.sinceEpoch < 1000000000

instance (s t : Instant) : Decidable (s.JustBefore t) :=
  inferInstanceAs (Decidable (_ ∧ _))

/-! ## Nanoseconds -/

/-- Between instants outside leap seconds no leap second is missed. -/
theorem leapBetween_of_regular (hs : s.Regular) (ht : t.Regular) : leapBetween s t = 0 := by
  rw [Regular] at hs ht
  have hstart : ¬(s.secondOfDay < t.secondOfDay ∧ 1000000000 ≤ s.nanos) := by omega
  have hfinish : ¬(t.secondOfDay < s.secondOfDay ∧ 1000000000 ≤ t.nanos) := by omega
  rw [leapBetween, if_neg hstart, if_neg hfinish]

/-- So the time between them is that between their distances from the epoch. -/
theorem nanosSince_of_regular (hs : s.Regular) (ht : t.Regular) :
    nanosSince s t = t.sinceEpoch - s.sinceEpoch := by
  rw [nanosSince, leapBetween_of_regular hs ht, sinceEpoch, sinceEpoch]
  omega

/-- A leap second is missed one way just as the other way. -/
theorem leapBetween_swap (s t : Instant) : leapBetween t s = -leapBetween s t := by
  rw [leapBetween, leapBetween]
  (repeat' split) <;> omega

theorem nanosSince_swap (s t : Instant) : nanosSince t s = -nanosSince s t := by
  rw [nanosSince, nanosSince, leapBetween_swap s t]
  omega

/-- All instants lie within 600000 years, of which 64 bits hold the seconds. -/
theorem natAbs_nanosSince_lt (s t : Instant) :
    (nanosSince s t).natAbs < 20000000000000 * 1000000000 := by
  have hleap : (leapBetween s t).natAbs ≤ 1 := by
    rw [leapBetween]
    split
    · omega
    · split <;> omega
  have hs := s.minSeconds_le
  have hs' := s.le_maxSeconds
  have hsn := s.nanos_lt
  have ht := t.minSeconds_le
  have ht' := t.le_maxSeconds
  have htn := t.nanos_lt
  rw [minSeconds] at hs ht
  rw [maxSeconds] at hs' ht'
  rw [nanosSince]
  omega

/-! ## Seconds -/

/-- **The seconds between two instants change their sign** when the instants
are exchanged. -/
theorem secondsSince_swap (s t : Instant) : secondsSince t s = -secondsSince s t := by
  rw [secondsSince, secondsSince, nanosSince_swap s t, Int.neg_tdiv]

/-- **The seconds between two instants fit 64 bits.** -/
theorem toInt_secondsSince (s t : Instant) :
    (Int64.ofInt (secondsSince s t)).toInt = secondsSince s t := by
  have hnanos := natAbs_nanosSince_lt s t
  have hseconds : (secondsSince s t).natAbs = (nanosSince s t).natAbs / 1000000000 := by
    rw [secondsSince, Int.natAbs_tdiv]
    rfl
  apply Int64.toInt_ofInt_of_le
  · omega
  · omega

/-- The seconds between instants of whole seconds are their difference. -/
theorem secondsSince_of_whole (hs : s.nanos = 0) (ht : t.nanos = 0) :
    secondsSince s t = t.seconds - s.seconds := by
  have hregular : s.Regular ∧ t.Regular := by
    rw [Regular, Regular]
    omega
  have hnanos : nanosSince s t = (t.seconds - s.seconds) * 1000000000 := by
    rw [nanosSince_of_regular hregular.1 hregular.2, sinceEpoch, sinceEpoch]
    omega
  rw [secondsSince, hnanos, Int.mul_tdiv_cancel _ (by decide)]

/-- **No second has passed** just when less than one has: what is cut off
does not tell an instant from those within the second after it. -/
theorem secondsSince_nonpos_iff (hs : s.Regular) (ht : t.Regular) :
    secondsSince s t ≤ 0 ↔ t.sinceEpoch - s.sinceEpoch < 1000000000 := by
  rw [secondsSince, nanosSince_of_regular hs ht]
  exact tdiv_nonpos_iff (by decide)

end Instant

end Time

end DataQuality
