import DataQuality.Interval
/-!
# Parameters — what a call says

The first two arguments of a call name columns of the row (`Dated`); those
after them state a comparison, a threshold and a unit, of which the ones that
are left out are to be at most zero seconds (`Stated`). A call that states
them is judged by them (`passes_of_stated`).
-/

namespace DataQuality

namespace Interval

/-- An argument names a column of the bound row that holds the date-time. -/
def Dated (b : Bindings) (argument : Value) (t : Time.Instant) : Prop :=
  ∃ column index, argument.toText? = some column ∧ b.columns.index? column = some index ∧
    b.row.cell? index = some ⟨.dateTime t⟩

theorem toInstant?_eq_some_iff {v : Value} {t : Time.Instant} :
    v.toInstant? = some t ↔ v = .dateTime t := by
  cases v <;> simp [Value.toInstant?]

/-- **An argument leads to an instant** just when it names a column that
holds it. -/
theorem instant?_eq_some_iff {b : Bindings} {argument : Value} {t : Time.Instant} :
    instant? b argument = some t ↔ Dated b argument t := by
  have hcell : ∀ index, b.row.value index = .dateTime t ↔
      b.row.cell? index = some ⟨.dateTime t⟩ := by
    intro index
    rw [Row.value, Row.valueOf.eq_def]
    cases b.row.cell? index with
    | none => simp
    | some cell =>
      obtain ⟨v⟩ := cell
      simp
  simp [instant?, Dated, Bindings.cellValue?, Option.bind_eq_some_iff, toInstant?_eq_some_iff,
    hcell]

/-! ## Words and thresholds -/

@[simp] theorem Comparison.ofWord?_word (c : Comparison) : ofWord? c.word = some c := by
  cases c <;> rfl

@[simp] theorem TimeUnit.ofWord?_word (u : TimeUnit) : ofWord? u.word = some u := by
  cases u <;> rfl

theorem Comparison.ofWord?_eq_some_iff {s : String} {c : Comparison} :
    ofWord? s = some c ↔ s = c.word := by
  constructor
  · intro h
    rw [ofWord?.eq_def] at h
    split at h <;> cases h <;> rfl
  · rintro rfl
    exact ofWord?_word c

theorem TimeUnit.ofWord?_eq_some_iff {s : String} {u : TimeUnit} :
    ofWord? s = some u ↔ s = u.word := by
  constructor
  · intro h
    rw [ofWord?.eq_def] at h
    split at h <;> cases h <;> rfl
  · rintro rfl
    exact ofWord?_word u

/-- A value that is a threshold: an integer, or a text that spells one between
blanks. -/
inductive IsThreshold : Value → Int64 → Prop
  | integer {v : Value} {n : Int64} : v.toInt64? = some n → IsThreshold v n
  | text {v : Value} {s : String} {n : Int64} : v.toText? = some s →
      Decimal.Spells (Text.trim s.toList) n.toInt → IsThreshold v n

/-- A comparison is read off its word. -/
theorem comparison_of_word {v : Value} {c : Comparison} (h : v.toText? = some c.word) :
    comparison v = .ok c := by
  rw [comparison, h]
  simp only [Comparison.parse, Comparison.ofWord?_word]

/-- A unit is read off its word. -/
theorem unit_of_word {v : Value} {u : TimeUnit} (h : v.toText? = some u.word) :
    unit v = .ok u := by
  rw [unit, h]
  simp only [TimeUnit.parse, TimeUnit.ofWord?_word]

/-- A text is no integer. -/
theorem toInt64?_of_toText? {v : Value} {s : String} (h : v.toText? = some s) :
    v.toInt64? = none := by
  rw [Value.toText?.eq_def] at h
  split at h
  · rfl
  · rfl
  · cases h

theorem threshold_of_isThreshold {v : Value} {n : Int64} (h : IsThreshold v n) :
    threshold v = .ok n := by
  cases h with
  | integer hn => rw [threshold, hn]
  | text hs hn =>
    rw [threshold, toInt64?_of_toText? hs, hs]
    simp only [Option.bind_some, Decimal.readInt64?_eq_some_iff.mpr hn]

/-! ## Parameters -/

/-- What parameters state. What they leave out is to be at most zero seconds;
what follows the unit does not matter. -/
inductive Stated : List Value → Comparison → Int64 → TimeUnit → Prop
  | none : Stated [] .lteq 0 .seconds
  | comparison {v : Value} {c : Comparison} : v.toText? = some c.word → Stated [v] c 0 .seconds
  | threshold {v w : Value} {c : Comparison} {t : Int64} : v.toText? = some c.word →
      IsThreshold w t → Stated [v, w] c t .seconds
  | unit {v w x : Value} {c : Comparison} {t : Int64} {u : TimeUnit} {rest : List Value} :
      v.toText? = some c.word → IsThreshold w t → x.toText? = some u.word →
      Stated (v :: w :: x :: rest) c t u

/-- **An interval passes what the parameters state** if in their unit it
compares with their threshold. -/
theorem passes_of_stated {parameters : List Value} {c : Comparison} {t : Int64} {u : TimeUnit}
    (h : Stated parameters c t u) (interval : Int64) :
    passes interval parameters = .ok (c.holds (u.convert interval) t) := by
  cases h with
  | none => rfl
  | comparison hc =>
    rw [passes, comparison_of_word hc]
    rfl
  | threshold hc ht =>
    rw [passes, comparison_of_word hc, threshold_of_isThreshold ht]
    rfl
  | unit hc ht hu =>
    rw [passes, comparison_of_word hc, threshold_of_isThreshold ht, unit_of_word hu]
    rfl

end Interval

end DataQuality
