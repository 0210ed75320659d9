import DataQuality.Function.Registry
import DataQuality.Proofs.Interval.Conversion
import DataQuality.Proofs.Interval.Parameters
import DataQuality.Proofs.Time.Difference
/-!
# Verdicts — what a call says of two instants

A call whose two columns hold date-times comes to a comparison of integers:
the time from the one to the other, cut toward zero to seconds and then to
the unit, with the threshold (`call_of_stated`). What is cut shows at zero.
Without parameters the call tells whether the end is not after the start, but
for an end within the second after it (`call_orders_instants`). An end less
than one unit early counts as no unit early, where rounding down would make
it one (`call_cuts_toward_zero`). As both signs are cut alike, the two columns
may be exchanged (`call_reversed`).
-/

namespace DataQuality

namespace Interval

variable {b : Bindings} {startColumn endColumn : Value} {start finish : Time.Instant}
variable {parameters reversed : List Value} {c : Comparison} {t : Int64} {u : TimeUnit}

/-- **A call compares integers**: the seconds between the instants, cut to
whole units, with the threshold. -/
theorem call_of_stated (hstart : Dated b startColumn start) (hfinish : Dated b endColumn finish)
    (hparameters : Stated parameters c t u) :
    function.call b (startColumn :: endColumn :: parameters) =
      .ok (.bool (decide (c.Relates ((start.secondsSince finish).tdiv u.length) t.toInt))) := by
  have hholds : c.holds (u.convert (Int64.ofInt (start.secondsSince finish))) t =
      decide (c.Relates ((start.secondsSince finish).tdiv u.length) t.toInt) := by
    rw [Comparison.holds_eq, TimeUnit.toInt_convert, Time.Instant.toInt_secondsSince]
  change Except.ok (evaluate b (startColumn :: endColumn :: parameters)) = _
  rw [evaluate, instant?_eq_some_iff.mpr hstart, instant?_eq_some_iff.mpr hfinish]
  simp only [passes_of_stated hparameters, hholds]

/-! ## Shifts -/

namespace Shift

/-- The row of a shift that begins and ends at the instants. -/
def row (begins ends : Time.Instant) : Bindings :=
  (Bindings.ofProject ⟨"shifts", ⟨["begins", "ends"]⟩, []⟩).setRow
    (Row.ofValues [.dateTime begins, .dateTime ends]) 0

theorem dated_begins (begins ends : Time.Instant) :
    Dated (row begins ends) (.string "begins") begins :=
  ⟨"begins", 0, rfl, rfl, rfl⟩

theorem dated_ends (begins ends : Time.Instant) :
    Dated (row begins ends) (.string "ends") ends :=
  ⟨"ends", 1, rfl, rfl, rfl⟩

/-- The first instant of a day. -/
def midnight : Time.Instant := ⟨1577836800, 0, by decide, by decide, by decide, by decide⟩

/-- A second before it. -/
def early : Time.Instant := ⟨1577836799, 0, by decide, by decide, by decide, by decide⟩

/-- A quarter of a second before it. -/
def almost : Time.Instant := ⟨1577836799, 750000000, by decide, by decide, by decide, by decide⟩

/-- One second and a quarter after it. -/
def late : Time.Instant := ⟨1577836801, 250000000, by decide, by decide, by decide, by decide⟩

/-- The leap second before it, three quarters gone. -/
def leap : Time.Instant := ⟨1577836799, 1750000000, by decide, by decide, by decide, by decide⟩

end Shift

/-! ## The order of the instants -/

/-- **A call without parameters orders the instants**: it is true just when
the end is not after the start, for instants outside leap seconds. Only where
the end follows within a second it is true as well. -/
theorem call_orders_instants (hstart : Dated b startColumn start)
    (hfinish : Dated b endColumn finish) (hregular : start.Regular ∧ finish.Regular) :
    (¬start.JustBefore finish →
      function.call b [startColumn, endColumn] = .ok (.bool (decide (finish ≤ start)))) ∧
    (start.JustBefore finish →
      function.call b [startColumn, endColumn] = .ok (.bool true) ∧ ¬finish ≤ start) := by
  have hcall : function.call b [startColumn, endColumn] =
      .ok (.bool (decide (finish.sinceEpoch - start.sinceEpoch < 1000000000))) := by
    rw [call_of_stated hstart hfinish .none]
    have hsecond : Comparison.lteq.Relates
          ((start.secondsSince finish).tdiv TimeUnit.seconds.length) (0 : Int64).toInt ↔
        finish.sinceEpoch - start.sinceEpoch < 1000000000 := by
      rw [TimeUnit.length, Int.tdiv_one]
      exact Time.Instant.secondsSince_nonpos_iff hregular.1 hregular.2
    rw [decide_eq_decide.mpr hsecond]
  have horder := Time.Instant.le_iff_sinceEpoch hregular.2 hregular.1
  constructor
  · intro hapart
    rw [Time.Instant.JustBefore] at hapart
    have hsame : finish.sinceEpoch - start.sinceEpoch < 1000000000 ↔ finish ≤ start := by
      rw [horder]
      omega
    rw [hcall, decide_eq_decide.mpr hsame]
  · rintro ⟨hafter, hwithin⟩
    refine ⟨?_, ?_⟩
    · rw [hcall, decide_eq_true hwithin]
    · rw [horder]
      omega

/-- A shift of a second and a half ends after it begins. -/
theorem Shift.late_is_after_almost : (almost.Regular ∧ late.Regular) ∧ ¬almost.JustBefore late ∧
    function.call (row almost late) [.string "begins", .string "ends"] =
      .ok (.bool (decide (late ≤ almost))) ∧ ¬late ≤ almost := by
  have hregular : almost.Regular ∧ late.Regular := by decide
  have hapart : ¬almost.JustBefore late := by decide
  obtain ⟨horders, -⟩ :=
    call_orders_instants (dated_begins almost late) (dated_ends almost late) hregular
  exact ⟨hregular, hapart, horders hapart, by decide⟩

/-- **A shift of a quarter of a second passes for one that does not end after
it begins.** -/
theorem Shift.quarter_second_is_lost : (almost.Regular ∧ midnight.Regular) ∧
    function.call (row almost midnight) [.string "begins", .string "ends"] = .ok (.bool true) ∧
    ¬midnight ≤ almost :=
  ⟨by decide, rfl, by decide⟩

/-! ## Whole seconds -/

/-- **A call cuts the interval toward zero** to whole units, between instants
of whole seconds. Rounding down comes to the same where the interval is not
negative or is a number of units. An end counts as not before the start just
when it is less than one unit early. -/
theorem call_cuts_toward_zero (hstart : Dated b startColumn start)
    (hfinish : Dated b endColumn finish) (hwhole : start.nanos = 0 ∧ finish.nanos = 0)
    (hparameters : Stated parameters c t u) :
    let interval := finish.seconds - start.seconds
    let result := function.call b (startColumn :: endColumn :: parameters)
    result = .ok (.bool (decide (c.Relates (interval.tdiv u.length) t.toInt))) ∧
    (0 ≤ interval ∨ u.length ∣ interval →
      result = .ok (.bool (decide (c.Relates (interval.fdiv u.length) t.toInt)))) ∧
    (c = .gteq → t = 0 →
      result = .ok (.bool (decide (start.seconds - finish.seconds < u.length)))) := by
  intro interval result
  have hresult : result =
      .ok (.bool (decide (c.Relates (interval.tdiv u.length) t.toInt))) := by
    have hcall := call_of_stated hstart hfinish hparameters
    rwa [Time.Instant.secondsSince_of_whole hwhole.1 hwhole.2] at hcall
  refine ⟨hresult, ?_, ?_⟩
  · intro hexact
    have hsame : interval.tdiv u.length = interval.fdiv u.length := by
      rw [Int.tdiv_eq_ediv, if_pos hexact, Int.add_zero,
        Int.fdiv_eq_ediv_of_nonneg _ (Int.le_of_lt u.length_pos)]
    rw [hresult, hsame]
  · rintro rfl rfl
    have hearly : Comparison.gteq.Relates (interval.tdiv u.length) (0 : Int64).toInt ↔
        start.seconds - finish.seconds < u.length := by
      rw [← Time.tdiv_nonpos_iff u.length_pos, ← Int.neg_sub, Int.neg_tdiv]
      change 0 ≤ interval.tdiv u.length ↔ -interval.tdiv u.length ≤ 0
      omega
    rw [hresult, decide_eq_decide.mpr hearly]

/-- A shift that ends a second early is no minute early and so not less than
zero minutes. The threshold is a text with blanks around it. -/
theorem Shift.early_by_no_minute :
    Stated [.string "lt", .string " 0 ", .string "minutes"] .lt 0 .minutes ∧
    function.call (row midnight early)
      [.string "begins", .string "ends", .string "lt", .string " 0 ", .string "minutes"] =
        .ok (.bool false) := by
  have hzero : Decimal.Spells (Text.trim " 0 ".toList) (0 : Int64).toInt :=
    .unsigned (by decide)
  have hstated : Stated [.string "lt", .string " 0 ", .string "minutes"] .lt 0 .minutes :=
    .unit rfl (.text rfl hzero) rfl
  obtain ⟨hresult, -, -⟩ := call_cuts_toward_zero (dated_begins midnight early)
    (dated_ends midnight early) ⟨rfl, rfl⟩ hstated
  exact ⟨hstated, hresult.trans rfl⟩

/-- **A shift that ends a second early is not reported as early** in minutes,
of which it lasts minus one when rounded down. -/
theorem Shift.early_is_not_negative : early.seconds - midnight.seconds < 0 ∧
    Stated [.string "gteq", .string "0", .string "minutes"] .gteq 0 .minutes ∧
    function.call (row midnight early)
      [.string "begins", .string "ends", .string "gteq", .string "0", .string "minutes"] =
        .ok (.bool true) ∧
    ¬Comparison.gteq.Relates
      ((early.seconds - midnight.seconds).fdiv TimeUnit.minutes.length) (0 : Int64).toInt := by
  have hzero : Decimal.Spells (Text.trim "0".toList) (0 : Int64).toInt :=
    .unsigned (by decide)
  exact ⟨by decide, .unit rfl (.text rfl hzero) rfl, rfl, by decide⟩

/-! ## Exchanged columns -/

/-- The opposite of a threshold that is not the least. -/
theorem toInt_neg {t : Int64} (ht : t ≠ Int64.minValue) : (-t).toInt = -t.toInt := by
  have hlow := t.le_toInt
  have hhigh := t.toInt_lt
  have hleast : t.toInt ≠ -2 ^ 63 := fun h => ht (Int64.toInt_inj.mp h)
  rw [Int64.toInt_neg, Int.bmod_eq_of_le] <;> omega

/-- **A call with its columns exchanged**, the comparison turned round and the
threshold negated comes to the same verdict, at any precision and in leap
seconds as well. The parameters may be written in any way. -/
theorem call_reversed (hstart : Dated b startColumn start) (hfinish : Dated b endColumn finish)
    (ht : t ≠ Int64.minValue) (hparameters : Stated parameters c t u)
    (hreversed : Stated reversed c.mirror (-t) u) :
    ∃ verdict, function.call b (startColumn :: endColumn :: parameters) = .ok (.bool verdict) ∧
      function.call b (endColumn :: startColumn :: reversed) = .ok (.bool verdict) := by
  refine ⟨_, call_of_stated hstart hfinish hparameters, ?_⟩
  rw [call_of_stated hfinish hstart hreversed, Time.Instant.secondsSince_swap, Int.neg_tdiv,
    toInt_neg ht, decide_eq_decide.mpr (c.mirror_relates _ _)]

/-- A shift that ends as far into the leap second as it begins in the second
before lasts one second, and minus one from its end to its begin. -/
theorem Shift.leap_reversed :
    Stated [.string "lteq", .int 1, .string "seconds"] .lteq 1 .seconds ∧
    Stated [.string "gteq", .string "-1", .string "seconds"] .gteq (-1) .seconds ∧
    function.call (row almost leap)
      [.string "begins", .string "ends", .string "lteq", .int 1, .string "seconds"] =
        .ok (.bool true) ∧
    function.call (row almost leap)
      [.string "ends", .string "begins", .string "gteq", .string "-1", .string "seconds"] =
        .ok (.bool true) := by
  have hstated : Stated [.string "lteq", .int 1, .string "seconds"] .lteq 1 .seconds :=
    .unit rfl (.integer rfl) rfl
  have hspells : Decimal.Spells (Text.trim "-1".toList) (-1 : Int64).toInt :=
    .minus (by decide)
  have hreversed : Stated [.string "gteq", .string "-1", .string "seconds"] .gteq (-1) .seconds :=
    .unit rfl (.text rfl hspells) rfl
  obtain ⟨verdict, hcall, hback⟩ :=
    call_reversed (dated_begins almost leap) (dated_ends almost leap) (by decide) hstated hreversed
  have htrue : function.call (row almost leap)
      [.string "begins", .string "ends", .string "lteq", .int 1, .string "seconds"] =
        .ok (.bool true) := rfl
  rw [htrue] at hcall
  cases hcall
  exact ⟨hstated, hreversed, htrue, hback⟩

end Interval

end DataQuality
