import DataQuality.Time.Calendar
/-!
# Instants — points in time on the universal time line

An instant is a number of seconds since 1970-01-01T00:00:00Z and
nanoseconds within that second. Nanoseconds from 10^9 on belong to a leap
second that follows the second named, which ends a minute.
-/

namespace DataQuality

namespace Time

/-- The seconds of -262143-01-01T00:00:00Z, the first instant. -/
def minSeconds : Int := -8334601228800

/-- The seconds of +262142-12-31T23:59:59Z, the last second. -/
def maxSeconds : Int := 8210266876799

/-- A point in time of the years -262143 to 262142. -/
structure Instant where
  seconds : Int
  nanos : Nat
  minSeconds_le : minSeconds ≤ seconds
  le_maxSeconds : seconds ≤ maxSeconds
  nanos_lt : nanos < 2000000000
  leap_ends_minute : 1000000000 ≤ nanos → seconds % 60 = 59
  deriving DecidableEq

namespace Instant

/-- The instant of these seconds and nanoseconds, if they are in range and a
leap second among them ends a minute. -/
def ofParts? (seconds : Int) (nanos : Nat) : Option Instant :=
  if h : minSeconds ≤ seconds ∧ seconds ≤ maxSeconds ∧ nanos < 2000000000 ∧
      (1000000000 ≤ nanos → seconds % 60 = 59) then
    some ⟨seconds, nanos, h.1, h.2.1, h.2.2.1, h.2.2.2⟩
  else none

/-- The instant `ticks` ticks after the epoch, `rate` of them a second, for
a rate that divides 10^9. Ticks before the epoch count back from it. -/
def ofTicks? (rate : Nat) (ticks : Int) : Option Instant :=
  ofParts? (ticks / rate) ((ticks % rate).toNat * (1000000000 / rate))

/-- The days from the epoch to the day of the instant. -/
def day (t : Instant) : Int := t.seconds / 86400

/-- The seconds from midnight to the instant. -/
def secondOfDay (t : Instant) : Int := t.seconds % 86400

/-- The leap second that the plain difference of the seconds misses: it
counts when it lies between the two times of day. -/
def leapBetween (start finish : Instant) : Int :=
  if start.secondOfDay < finish.secondOfDay ∧ 1000000000 ≤ start.nanos then 1
  else if finish.secondOfDay < start.secondOfDay ∧ 1000000000 ≤ finish.nanos then -1
  else 0

/-- The nanoseconds from `start` to `finish`. -/
def nanosSince (start finish : Instant) : Int :=
  (finish.seconds - start.seconds + leapBetween start finish) * 1000000000 +
    ((finish.nanos : Int) - start.nanos)

/-- The whole seconds from `start` to `finish`, cut toward zero. -/
def secondsSince (start finish : Instant) : Int :=
  (nanosSince start finish).tdiv 1000000000

end Instant

end Time

end DataQuality
