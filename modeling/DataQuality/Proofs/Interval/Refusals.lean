import DataQuality.Proofs.Interval.Verdict
/-!
# Refusals — parameters that mean nothing

Parameters are read one after another, and the first that means nothing
refuses the call (`Refused`); parameters that are not refused state something
(`stated_or_refused`). So a call whatever its arguments is answered by a
verdict or by the wording of a refusal, and parameters are refused only
between two instants (`call_is_verdict_or_refusal`).
-/

namespace DataQuality

namespace Interval

variable {b : Bindings} {parameters rest : List Value} {v w x : Value}
variable {interval : Int64} {c : Comparison} {t : Int64} {u : TimeUnit} {e : ParameterError}

/-! ## One parameter -/

/-- A value is the word of a comparison. -/
def NamesComparison (v : Value) : Prop := ∃ c : Comparison, v.toText? = some c.word

/-- A value is the word of a unit. -/
def NamesUnit (v : Value) : Prop := ∃ u : TimeUnit, v.toText? = some u.word

/-- How a refusal shows the value that is no word: as the string it is, or by
the text of any other value. -/
def shown (v : Value) : String := v.toText?.getD v.text

theorem comparison_of_not_names (h : ¬NamesComparison v) :
    comparison v = .error (.unknownComparison (shown v)) := by
  rw [comparison.eq_def, shown]
  cases hv : v.toText? with
  | none => rfl
  | some word =>
    have hnone : Comparison.ofWord? word = none := by
      rw [Option.eq_none_iff_forall_ne_some]
      intro c hc
      exact h ⟨c, by rw [hv, Comparison.ofWord?_eq_some_iff.mp hc]⟩
    simp only [Comparison.parse, hnone, Option.getD_some]

theorem unit_of_not_names (h : ¬NamesUnit v) : unit v = .error (.unknownUnit (shown v)) := by
  rw [unit.eq_def, shown]
  cases hv : v.toText? with
  | none => rfl
  | some word =>
    have hnone : TimeUnit.ofWord? word = none := by
      rw [Option.eq_none_iff_forall_ne_some]
      intro u hu
      exact h ⟨u, by rw [hv, TimeUnit.ofWord?_eq_some_iff.mp hu]⟩
    simp only [TimeUnit.parse, hnone, Option.getD_some]

theorem threshold_of_not_isThreshold (h : ∀ n, ¬IsThreshold w n) :
    threshold w = .error (.invalidThreshold w.text) := by
  have hinteger : w.toInt64? = none := by
    rw [Option.eq_none_iff_forall_ne_some]
    exact fun n hn => h n (.integer hn)
  have htext : (w.toText?.bind fun s => Decimal.readInt64? (Text.trim s.toList)) = none := by
    rw [Option.eq_none_iff_forall_ne_some]
    intro n hn
    obtain ⟨s, hs, hread⟩ := Option.bind_eq_some_iff.mp hn
    exact h n (.text hs (Decimal.readInt64?_eq_some_iff.mp hread))
  simp only [threshold, hinteger, htext]

/-! ## The parameters of a call -/

/-- Why parameters mean nothing. It is the first of them that tells, whatever
stands behind it. -/
inductive Refused : List Value → ParameterError → Prop
  | comparison {v : Value} {rest : List Value} : ¬NamesComparison v →
      Refused (v :: rest) (.unknownComparison (shown v))
  | threshold {v w : Value} {rest : List Value} : NamesComparison v → (∀ n, ¬IsThreshold w n) →
      Refused (v :: w :: rest) (.invalidThreshold w.text)
  | unit {v w x : Value} {t : Int64} {rest : List Value} : NamesComparison v → IsThreshold w t →
      ¬NamesUnit x → Refused (v :: w :: x :: rest) (.unknownUnit (shown x))

/-- A comparison that means nothing is the reason, whatever follows it. -/
theorem passes_of_comparison (h : comparison v = .error e) (rest : List Value) :
    passes interval (v :: rest) = .error e := by
  rcases rest with _ | ⟨w, _ | ⟨x, rest⟩⟩ <;> rw [passes, h] <;> rfl

/-- Behind a comparison a threshold that means nothing is the reason. -/
theorem passes_of_threshold (hv : comparison v = .ok c) (h : threshold w = .error e)
    (rest : List Value) : passes interval (v :: w :: rest) = .error e := by
  rcases rest with _ | ⟨x, rest⟩ <;> rw [passes, hv, h] <;> rfl

/-- **No interval passes refused parameters**: it fails for their reason. -/
theorem passes_of_refused (h : Refused parameters e) : passes interval parameters = .error e := by
  cases h with
  | comparison hv => exact passes_of_comparison (comparison_of_not_names hv) _
  | threshold hv hw =>
    obtain ⟨c, hc⟩ := hv
    exact passes_of_threshold (comparison_of_word hc) (threshold_of_not_isThreshold hw) _
  | unit hv hw hx =>
    obtain ⟨c, hc⟩ := hv
    rw [passes, comparison_of_word hc, threshold_of_isThreshold hw, unit_of_not_names hx]
    rfl

/-- **Parameters state something or are refused.** -/
theorem stated_or_refused (parameters : List Value) :
    (∃ c t u, Stated parameters c t u) ∨ ∃ e, Refused parameters e := by
  match parameters with
  | [] => exact .inl ⟨_, _, _, .none⟩
  | v :: rest =>
    by_cases hv : NamesComparison v
    · have ⟨c, hc⟩ := hv
      match rest with
      | [] => exact .inl ⟨_, _, _, .comparison hc⟩
      | w :: rest =>
        by_cases hw : ∃ t, IsThreshold w t
        · obtain ⟨t, ht⟩ := hw
          match rest with
          | [] => exact .inl ⟨_, _, _, .threshold hc ht⟩
          | x :: rest =>
            by_cases hx : NamesUnit x
            · obtain ⟨u, hu⟩ := hx
              exact .inl ⟨_, _, _, .unit hc ht hu⟩
            · exact .inr ⟨_, .unit hv ht hx⟩
        · exact .inr ⟨_, .threshold hv (not_exists.mp hw)⟩
    · exact .inr ⟨_, .comparison hv⟩

/-- Each parameter that is read has a meaning where they state something. -/
theorem Stated.meanings (h : Stated parameters c t u) :
    (∀ v, parameters[0]? = some v → NamesComparison v) ∧
      (∀ w, parameters[1]? = some w → ∃ n, IsThreshold w n) ∧
      ∀ x, parameters[2]? = some x → NamesUnit x := by
  refine ⟨?_, ?_, ?_⟩
  · intro v hat
    cases h with
    | none => cases hat
    | comparison hc | threshold hc _ | unit hc _ _ =>
      cases hat
      exact ⟨_, hc⟩
  · intro w hat
    cases h with
    | none | comparison _ => cases hat
    | threshold _ ht | unit _ ht _ =>
      cases hat
      exact ⟨_, ht⟩
  · intro x hat
    cases h with
    | none | comparison _ | threshold _ _ => cases hat
    | unit _ _ hu =>
      cases hat
      exact ⟨_, hu⟩

/-- **Parameters are refused** just when one of the three that are read means
nothing. -/
theorem exists_refused_iff :
    (∃ e, Refused parameters e) ↔
      (∃ v, parameters[0]? = some v ∧ ¬NamesComparison v) ∨
      (∃ w, parameters[1]? = some w ∧ ∀ n, ¬IsThreshold w n) ∨
      ∃ x, parameters[2]? = some x ∧ ¬NamesUnit x := by
  constructor
  · rintro ⟨e, hv | ⟨-, hw⟩ | ⟨-, -, hx⟩⟩
    · exact .inl ⟨_, rfl, hv⟩
    · exact .inr (.inl ⟨_, rfl, hw⟩)
    · exact .inr (.inr ⟨_, rfl, hx⟩)
  · intro hnothing
    refine (stated_or_refused parameters).resolve_left ?_
    rintro ⟨c, t, u, hstated⟩
    obtain ⟨hcomparison, hthreshold, hunit⟩ := hstated.meanings
    rcases hnothing with ⟨v, hat, hv⟩ | ⟨w, hat, hw⟩ | ⟨x, hat, hx⟩
    · exact hv (hcomparison v hat)
    · obtain ⟨n, hn⟩ := hthreshold w hat
      exact hw n hn
    · exact hx (hunit x hat)

/-- No more than three parameters are read. -/
theorem passes_take (parameters : List Value) :
    passes interval (parameters.take 3) = passes interval parameters := by
  match parameters with
  | [] | [_] | [_, _] | _ :: _ :: _ :: _ => rfl

/-! ## Calls -/

/-- The first two arguments name columns of the bound row that hold
date-times. -/
inductive Spans (b : Bindings) : List Value → Prop
  | columns {startColumn endColumn : Value} {start finish : Time.Instant}
      {parameters : List Value} : Dated b startColumn start → Dated b endColumn finish →
      Spans b (startColumn :: endColumn :: parameters)

/-- **A call that does not span instants is false**, whatever its parameters. -/
theorem call_of_not_spans {arguments : List Value} (h : ¬Spans b arguments) :
    function.call b arguments = .ok (.bool false) := by
  change Except.ok (evaluate b arguments) = _
  match arguments with
  | [] | [_] => rfl
  | startColumn :: endColumn :: parameters =>
    rw [evaluate]
    split
    · rename_i start finish hstart hfinish
      exact absurd (.columns (instant?_eq_some_iff.mp hstart) (instant?_eq_some_iff.mp hfinish)) h
    · rfl

/-- **A call with refused parameters** is answered by the wording of the
refusal. -/
theorem call_of_refused {startColumn endColumn : Value} {start finish : Time.Instant}
    (hstart : Dated b startColumn start) (hfinish : Dated b endColumn finish)
    (hrefused : Refused parameters e) :
    function.call b (startColumn :: endColumn :: parameters) = .ok (.error e.message) := by
  change Except.ok (evaluate b (startColumn :: endColumn :: parameters)) = _
  rw [evaluate, instant?_eq_some_iff.mpr hstart, instant?_eq_some_iff.mpr hfinish]
  simp only [passes_of_refused hrefused]

/-- No more than five arguments are read. -/
theorem call_take (b : Bindings) (arguments : List Value) :
    function.call b (arguments.take 5) = function.call b arguments := by
  match arguments with
  | [] | [_] => rfl
  | startColumn :: endColumn :: parameters =>
    change Except.ok (evaluate b (startColumn :: endColumn :: parameters.take 3)) =
      Except.ok (evaluate b (startColumn :: endColumn :: parameters))
    simp only [evaluate, passes_take]

/-- **A call is answered by a verdict or a refusal**, whatever its arguments,
of which no more than five are read. It is false unless they span instants.
Between instants it is refused just when the third argument is no comparison,
the fourth no threshold or the fifth no unit, and the first of these words the
refusal. -/
theorem call_is_verdict_or_refusal (b : Bindings) (arguments : List Value) :
    let result := function.call b arguments
    ((∃ verdict, result = .ok (.bool verdict)) ∨ ∃ message, result = .ok (.error message)) ∧
    (¬Spans b arguments → result = .ok (.bool false)) ∧
    (Spans b arguments →
      ((∃ message, result = .ok (.error message)) ↔
        (∃ v, arguments[2]? = some v ∧ ¬NamesComparison v) ∨
        (∃ w, arguments[3]? = some w ∧ ∀ n, ¬IsThreshold w n) ∨
        ∃ x, arguments[4]? = some x ∧ ¬NamesUnit x) ∧
      ∀ e, Refused (arguments.drop 2) e → result = .ok (.error e.message)) ∧
    function.call b (arguments.take 5) = result := by
  intro result
  refine ⟨?_, call_of_not_spans, ?_, call_take b arguments⟩
  · by_cases hspans : Spans b arguments
    · obtain @⟨_, _, _, _, parameters, hstart, hfinish⟩ := hspans
      rcases stated_or_refused parameters with ⟨c, t, u, hstated⟩ | ⟨e, hrefused⟩
      · exact .inl ⟨_, call_of_stated hstart hfinish hstated⟩
      · exact .inr ⟨_, call_of_refused hstart hfinish hrefused⟩
    · exact .inl ⟨false, call_of_not_spans hspans⟩
  · rintro @⟨startColumn, endColumn, start, finish, parameters, hstart, hfinish⟩
    refine ⟨?_, fun e hrefused => call_of_refused hstart hfinish hrefused⟩
    change _ ↔ (∃ v, parameters[0]? = some v ∧ ¬NamesComparison v) ∨
      (∃ w, parameters[1]? = some w ∧ ∀ n, ¬IsThreshold w n) ∨
      ∃ x, parameters[2]? = some x ∧ ¬NamesUnit x
    rw [← exists_refused_iff]
    constructor
    · rintro ⟨message, hmessage⟩
      rcases stated_or_refused parameters with ⟨c, t, u, hstated⟩ | hrefused
      · cases hmessage.symm.trans (call_of_stated hstart hfinish hstated)
      · exact hrefused
    · rintro ⟨e, hrefused⟩
      exact ⟨_, call_of_refused hstart hfinish hrefused⟩

/-- A shift held against soon, in fortnights, is refused for the threshold,
which comes before the unit. Against a column that is not there the same
parameters do not matter. -/
theorem Shift.soon_is_no_threshold :
    let parameters : List Value := [.string "lt", .string "soon", .string "fortnights", .null]
    Spans (row midnight early) (.string "begins" :: .string "ends" :: parameters) ∧
    function.call (row midnight early) (.string "begins" :: .string "ends" :: parameters) =
      .ok (.error "Invalid threshold soon") ∧
    ¬Spans (row midnight early) (.string "begins" :: .string "pause" :: parameters) ∧
    function.call (row midnight early) (.string "begins" :: .string "pause" :: parameters) =
      .ok (.bool false) := by
  intro parameters
  have hspans : Spans (row midnight early) (.string "begins" :: .string "ends" :: parameters) :=
    .columns (dated_begins midnight early) (dated_ends midnight early)
  have hsoon : ∀ n, ¬IsThreshold (.string "soon") n := by
    intro n h
    cases threshold_of_isThreshold h
  have hrefused : Refused parameters (.invalidThreshold "soon") :=
    .threshold ⟨.lt, rfl⟩ hsoon
  have hpause : ¬Spans (row midnight early)
      (.string "begins" :: .string "pause" :: parameters) := by
    rintro (⟨-, hfinish⟩)
    cases instant?_eq_some_iff.mpr hfinish
  obtain ⟨-, -, hbetween, -⟩ := call_is_verdict_or_refusal (row midnight early)
    (.string "begins" :: .string "ends" :: parameters)
  obtain ⟨-, hapart, -⟩ := call_is_verdict_or_refusal (row midnight early)
    (.string "begins" :: .string "pause" :: parameters)
  exact ⟨hspans, (hbetween hspans).2 _ hrefused, hpause, hapart hpause⟩

end Interval

end DataQuality
