import DataQuality.Proofs.Interval.Verdict
/-!
# Forms — calls that say the same

A call may leave parameters out and may write its threshold as an integer or
as a text. Calls whose parameters pass the same intervals are one call,
whatever their columns hold (`call_congr`), so the forms do not differ
(`call_forms_agree`). Between two instants the comparisons divide the verdicts
among them: one of less, equal and greater is true, and the other two deny one
of these.
-/

namespace DataQuality

namespace Interval

variable {b : Bindings} {startColumn endColumn v w : Value} {start finish : Time.Instant}
variable {parameters others rest : List Value} {c : Comparison} {t : Int64} {u : TimeUnit}

/-! ## Parameters that say the same -/

/-- **Calls differ by what their parameters pass**, also where there is no
interval to pass. -/
theorem call_congr (h : ∀ interval, passes interval parameters = passes interval others) :
    function.call b (startColumn :: endColumn :: parameters) =
      function.call b (startColumn :: endColumn :: others) := by
  change Except.ok (evaluate b (startColumn :: endColumn :: parameters)) =
    Except.ok (evaluate b (startColumn :: endColumn :: others))
  simp only [evaluate, h]

/-- Calls that state the same are one call. -/
theorem call_of_same_statement (hparameters : Stated parameters c t u)
    (hothers : Stated others c t u) :
    function.call b (startColumn :: endColumn :: parameters) =
      function.call b (startColumn :: endColumn :: others) :=
  call_congr fun interval => by
    rw [passes_of_stated hparameters, passes_of_stated hothers]

/-- What the default parameters state is what their absence does. -/
theorem stated_defaults : Stated (function.defaultParams.map .string) .lteq 0 .seconds :=
  .unit rfl (.text rfl (.unsigned (by decide))) rfl

/-! ## Thresholds as text -/

/-- A text that spells an integer has no blanks. -/
theorem isBlank_of_spells {s : List Char} {n : Int} (h : Decimal.Spells s n) :
    ∀ ch ∈ s, Text.isBlank ch = false := by
  have hdigits : ∀ {run : List Char}, Decimal.IsDigits run →
      ∀ ch ∈ run, Text.isBlank ch = false :=
    fun hrun ch hch => Text.isBlank_eq_false_of_isDigit (hrun.2 ch hch)
  cases h with
  | unsigned hrun => exact hdigits hrun
  | plus hrun | minus hrun =>
    rintro ch (_ | ⟨_, hch⟩)
    · decide
    · exact hdigits hrun ch hch

/-- **A text that spells an integer between blanks is that threshold.** -/
theorem isThreshold_padded {front s back : List Char} {n : Int64} (hfront : Text.AllBlank front)
    (hspells : Decimal.Spells s n.toInt) (hback : Text.AllBlank back) :
    IsThreshold (.string (String.ofList (front ++ s ++ back))) n := by
  refine .text rfl ?_
  rw [String.toList_ofList, Text.trim_append hfront hback,
    Text.trim_of_no_blank (isBlank_of_spells hspells)]
  exact hspells

/-- One threshold may stand for another that reads alike. -/
theorem passes_congr_threshold (h : threshold v = threshold w) (interval : Int64) (x : Value)
    (rest : List Value) :
    passes interval (x :: v :: rest) = passes interval (x :: w :: rest) := by
  match rest with
  | [] | _ :: _ => simp only [passes, h]

/-! ## Forms of a call -/

/-- **The comparisons of one interval** with one threshold: of less, equal and
greater exactly one is true, the other two deny one of these. -/
theorem verdicts_of_comparisons (hstart : Dated b startColumn start)
    (hfinish : Dated b endColumn finish) {word : Comparison → Value}
    (hstated : ∀ c, Stated (word c :: rest) c t u) :
    ∃ verdict : Comparison → Bool,
      (∀ c, function.call b (startColumn :: endColumn :: word c :: rest) =
        .ok (.bool (verdict c))) ∧
      [Comparison.lt, .eq, .gt].countP verdict = 1 ∧
      (verdict .gteq = !verdict .lt) ∧ (verdict .lteq = !verdict .gt) := by
  refine ⟨fun c => decide (c.Relates ((start.secondsSince finish).tdiv u.length) t.toInt),
    fun c => call_of_stated hstart hfinish (hstated c), Comparison.countP_relates _ _, ?_, ?_⟩
  · rw [← decide_not, decide_eq_decide]
    exact Comparison.gteq_relates_iff
  · rw [← decide_not, decide_eq_decide]
    exact Comparison.lteq_relates_iff

/-- **The forms of a call agree**, whatever its columns hold. No parameters are
the default ones and at most; a comparison alone is with zero and in seconds;
a threshold is the same as an integer and as its text between blanks. Where
the columns hold date-times the comparisons divide the verdicts. -/
theorem call_forms_agree (b : Bindings) (startColumn endColumn : Value) :
    let result parameters := function.call b (startColumn :: endColumn :: parameters)
    result [] = result (function.defaultParams.map .string) ∧
    (∀ v : Value, v.toText? = some Comparison.lteq.word → result [v] = result []) ∧
    (∀ (c : Comparison) (v w x : Value), v.toText? = some c.word → IsThreshold w 0 →
      x.toText? = some TimeUnit.seconds.word →
      result [v] = result [v, w] ∧ result [v, w] = result [v, w, x]) ∧
    (∀ (n : Int64) (front back : List Char) (v : Value) (rest : List Value),
      Text.AllBlank front → Text.AllBlank back →
      result (v :: .int n :: rest) =
        result (v :: .string (String.ofList
          (front ++ Decimal.integerText n.toInt ++ back)) :: rest)) ∧
    ∀ start finish, Dated b startColumn start → Dated b endColumn finish →
      ∀ (word : Comparison → Value) (rest : List Value) (t : Int64) (u : TimeUnit),
        (∀ c, Stated (word c :: rest) c t u) →
        ∃ verdict : Comparison → Bool,
          (∀ c, result (word c :: rest) = .ok (.bool (verdict c))) ∧
          [Comparison.lt, .eq, .gt].countP verdict = 1 ∧
          (verdict .gteq = !verdict .lt) ∧ (verdict .lteq = !verdict .gt) := by
  intro result
  refine ⟨call_of_same_statement .none stated_defaults, ?_, ?_, ?_, ?_⟩
  · intro v hv
    exact call_of_same_statement (.comparison hv) .none
  · intro c v w x hv hw hx
    have hunit : Stated [v, w, x] c 0 .seconds := .unit hv hw hx
    exact ⟨call_of_same_statement (.comparison hv) (.threshold hv hw),
      call_of_same_statement (.threshold hv hw) hunit⟩
  · intro n front back v rest hfront hback
    have hsame : threshold (.int n) =
        threshold (.string (String.ofList (front ++ Decimal.integerText n.toInt ++ back))) := by
      rw [threshold_of_isThreshold (.integer rfl), threshold_of_isThreshold
        (isThreshold_padded hfront (Decimal.spells_integerText n.toInt) hback)]
    exact call_congr fun interval => passes_congr_threshold hsame interval v rest
  · intro start finish hstart hfinish word rest t u hstated
    exact verdicts_of_comparisons hstart hfinish hstated

/-- A shift that ends a quarter of a second into the next day lasts no second:
at most zero with nothing said, and zero, so not more. -/
theorem Shift.quarter_second_is_no_more :
    function.call (row almost midnight) [.string "begins", .string "ends", .string "lteq"] =
      function.call (row almost midnight) [.string "begins", .string "ends"] ∧
    function.call (row almost midnight)
      [.string "begins", .string "ends", .string "lt", .int (-5)] =
        function.call (row almost midnight)
          [.string "begins", .string "ends", .string "lt", .string " -5 "] ∧
    function.call (row almost midnight) [.string "begins", .string "ends", .string "eq"] =
      .ok (.bool true) ∧
    function.call (row almost midnight) [.string "begins", .string "ends", .string "gt"] =
      .ok (.bool false) := by
  obtain ⟨-, hlteq, -, hthreshold, hdated⟩ :=
    call_forms_agree (row almost midnight) (.string "begins") (.string "ends")
  have hminus := hthreshold (-5) [' '] [' '] (.string "lt") [] (by decide) (by decide)
  have htext : String.ofList ([' '] ++ Decimal.integerText (-5 : Int64).toInt ++ [' ']) = " -5 " :=
    rfl
  rw [htext] at hminus
  obtain ⟨verdict, hcall, hone, -⟩ := hdated almost midnight (dated_begins almost midnight)
    (dated_ends almost midnight) (fun c => .string c.word) [] 0 .seconds
    fun c => .comparison rfl
  have heq : function.call (row almost midnight)
      [.string "begins", .string "ends", .string "eq"] = .ok (.bool true) := rfl
  have hzero : true = verdict .eq := Value.bool.inj (Except.ok.inj (heq.symm.trans (hcall .eq)))
  have hmore : verdict .gt = false := by
    cases hgt : verdict .gt with
    | false => rfl
    | true =>
      simp only [List.countP_cons, List.countP_nil, hgt, ← hzero, if_true] at hone
      omega
  have hgt := hcall .gt
  rw [hmore] at hgt
  exact ⟨hlteq _ rfl, hminus, heq, hgt⟩

end Interval

end DataQuality
