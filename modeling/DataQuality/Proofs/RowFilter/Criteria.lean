import DataQuality.Proofs.RowFilter.Arrays
/-!
# Criteria — a filter as the union of what it asks for

A filter asks for literals, for blanks and for errors. Of a single value at
most one of these can hold (`RowFilter.selects_iff`), but a result with several
values may meet one by this value and another by that
(`RowFilter.selectsResult_iff`). Either way a row is accepted just when the
filter with one of the criteria, and no other, accepts it, and so neither the
order of the literals matters nor does a criterion more lose a row
(`RowFilter.accepts_iff_by_criterion`).
-/

namespace DataQuality

/-- What a filter may ask for. -/
inductive Criterion where
  | literal (value : Value)
  | blank
  | error

/-- Data is no error. -/
theorem Value.isError_of_isData {v : Value} (h : v.isData = true) : v.isError = false := by
  rw [isData, Bool.and_eq_true, Bool.not_eq_true'] at h
  exact h.1

namespace RowFilter

variable {f : RowFilter} {project : Project} {index : Nat} {row : Row} {v : Value}

/-- The filter asks for it. -/
def Asks (f : RowFilter) : Criterion → Prop
  | .literal value => value ∈ f.literals
  | .blank => f.selectsBlank = true
  | .error => f.selectsError = true

/-- The filter with other criteria. -/
def withCriteria (f : RowFilter) (literals : List Value) (selectsBlank selectsError : Bool) :
    RowFilter :=
  { f with literals, selectsBlank, selectsError }

/-- The filter that asks for one thing and nothing else. -/
def only (f : RowFilter) : Criterion → RowFilter
  | .literal value => f.withCriteria [value] false false
  | .blank => f.withCriteria [] true false
  | .error => f.withCriteria [] false true

/-- The filter accepts the row. -/
def Accepts (f : RowFilter) (project : Project) (index : Nat) (row : Row) : Prop :=
  (f.test project index row).2 = .ok true

/-! ## What is selected -/

theorem selects_of_isError (h : v.isError = true) : f.selects v = f.selectsError := if_pos h

theorem selects_of_isData (h : v.isData = true) :
    f.selects v = f.literals.any v.matchesLiteral := by
  rw [selects, Value.isError_of_isData h, if_neg Bool.false_ne_true, if_pos h]

theorem selects_of_blank (herror : ¬v.isError = true) (hdata : ¬v.isData = true) :
    f.selects v = f.selectsBlank := by
  rw [selects, if_neg herror, if_neg hdata]

/-- **A value is selected** when it is selected for one of the criteria. Which
of them can select it is a matter of the value alone. -/
theorem selects_iff : f.selects v = true ↔ ∃ c, f.Asks c ∧ (f.only c).selects v = true := by
  by_cases herror : v.isError = true
  · simp only [selects_of_isError herror]
    constructor
    · exact fun h => ⟨.error, h, rfl⟩
    · rintro ⟨c, hasks, h⟩
      cases c with
      | error => exact hasks
      | literal value => cases h
      | blank => cases h
  by_cases hdata : v.isData = true
  · simp only [selects_of_isData hdata, List.any_eq_true]
    constructor
    · rintro ⟨value, hmem, hmatches⟩
      exact ⟨.literal value, hmem, value, List.mem_singleton_self _, hmatches⟩
    · rintro ⟨c, hasks, value, hmem, hmatches⟩
      cases c with
      | literal value =>
        obtain rfl := List.mem_singleton.mp hmem
        exact ⟨_, hasks, hmatches⟩
      | blank => cases hmem
      | error => cases hmem
  · simp only [selects_of_blank herror hdata]
    constructor
    · exact fun h => ⟨.blank, h, rfl⟩
    · rintro ⟨c, hasks, h⟩
      cases c with
      | blank => exact hasks
      | literal value => cases h
      | error => cases h

/-- A result is selected by one of its values, which for most results is the
result itself. -/
theorem selectsResult_eq_any (v : Value) :
    ∃ values : List Value, ∀ f : RowFilter, f.selectsResult v = values.any f.selects := by
  cases v with
  | array values => exact ⟨values, fun _ => rfl⟩
  | json j =>
    cases j with
    | array elements => exact ⟨plainValues elements, fun _ => rfl⟩
    | _ => exact ⟨[_], fun _ => (Bool.or_false _).symm⟩
  | _ => exact ⟨[_], fun _ => (Bool.or_false _).symm⟩

/-- **A result is selected** when it is selected for one of the criteria, though
of its values another one may be selected for each. -/
theorem selectsResult_iff :
    f.selectsResult v = true ↔ ∃ c, f.Asks c ∧ (f.only c).selectsResult v = true := by
  obtain ⟨values, hvalues⟩ := selectsResult_eq_any v
  simp only [hvalues, List.any_eq_true]
  constructor
  · rintro ⟨value, hmem, hselects⟩
    obtain ⟨c, hasks, honly⟩ := selects_iff.mp hselects
    exact ⟨c, hasks, value, hmem, honly⟩
  · rintro ⟨c, hasks, value, hmem, honly⟩
    exact ⟨value, hmem, selects_iff.mpr ⟨c, hasks, honly⟩⟩

/-! ## What is accepted -/

/-- **A row is accepted** when it is bound, the expression has a result, the
result is selected and the filter is not inverted. -/
theorem accepts_iff :
    f.Accepts project index row ↔ ∃ b v, f.Sees project index row b ∧
      f.expression.evaluate b = .ok v ∧ f.selectsResult v = true ∧ f.inverted = false := by
  rw [Accepts]
  constructor
  · intro h
    rcases f.sees_or_refused project index row with ⟨b, hbound⟩ | ⟨fault, hrefused⟩
    · rw [test_of_sees hbound] at h
      cases hv : f.expression.evaluate b with
      | error crash =>
        rw [hv] at h
        cases h
      | ok v =>
        rw [hv] at h
        have hboth := Bool.and_eq_true_iff.mp (Except.ok.inj h)
        exact ⟨b, v, hbound, hv, hboth.1, (Bool.not_eq_true' _).mp hboth.2⟩
    · rw [test_of_refused hrefused] at h
      cases h
  · rintro ⟨b, v, hbound, hv, hselects, hinverted⟩
    rw [test_of_value hbound hv, hselects, hinverted]
    rfl

/-- A filter with other criteria sees a row and asks about it as before. -/
theorem accepts_withCriteria_iff {literals : List Value} {blank error : Bool} :
    (f.withCriteria literals blank error).Accepts project index row ↔
      ∃ b v, f.Sees project index row b ∧ f.expression.evaluate b = .ok v ∧
        (f.withCriteria literals blank error).selectsResult v = true ∧ f.inverted = false :=
  accepts_iff

/-- So does the filter with one of them. -/
theorem accepts_only_iff {c : Criterion} :
    (f.only c).Accepts project index row ↔ ∃ b v, f.Sees project index row b ∧
      f.expression.evaluate b = .ok v ∧ (f.only c).selectsResult v = true ∧
        f.inverted = false := by
  cases c <;> exact accepts_withCriteria_iff

/-- Criteria of the filter with other criteria are the filter's, one by one. -/
theorem only_withCriteria {literals : List Value} {blank error : Bool} (c : Criterion) :
    (f.withCriteria literals blank error).only c = f.only c := by
  cases c <;> rfl

/-- A row is accepted just when it is accepted for one of the criteria. -/
theorem accepts_iff_exists_only :
    f.Accepts project index row ↔ ∃ c, f.Asks c ∧ (f.only c).Accepts project index row := by
  simp only [accepts_iff (f := f), accepts_only_iff, selectsResult_iff (f := f)]
  constructor
  · rintro ⟨b, v, hbound, hv, ⟨c, hasks, honly⟩, hinverted⟩
    exact ⟨c, hasks, b, v, hbound, hv, honly, hinverted⟩
  · rintro ⟨c, hasks, b, v, hbound, hv, honly, hinverted⟩
    exact ⟨b, v, hbound, hv, ⟨c, hasks, honly⟩, hinverted⟩

/-- Filters that ask for the same answer alike, in what they report too. -/
theorem test_withCriteria {literals : List Value} {blank error : Bool}
    (h : ∀ c, (f.withCriteria literals blank error).Asks c ↔ f.Asks c) (project : Project)
    (index : Nat) (row : Row) :
    (f.withCriteria literals blank error).test project index row = f.test project index row := by
  have hselects : (f.withCriteria literals blank error).selectsResult = f.selectsResult := by
    funext v
    rw [Bool.eq_iff_iff, selectsResult_iff, selectsResult_iff (f := f)]
    simp only [h, only_withCriteria]
  rw [test, test, hselects]
  rfl

/-- A filter that asks for more accepts what the filter accepts. -/
theorem Accepts.withCriteria {literals : List Value} {blank error : Bool}
    (haccepts : f.Accepts project index row)
    (h : ∀ c, f.Asks c → (f.withCriteria literals blank error).Asks c) :
    (f.withCriteria literals blank error).Accepts project index row := by
  obtain ⟨c, hasks, honly⟩ := accepts_iff_exists_only.mp haccepts
  refine accepts_iff_exists_only.mpr ⟨c, h c hasks, ?_⟩
  rw [only_withCriteria]
  exact honly

/-- **A filter is the union of its criteria.** It accepts a row just when it
would do so for one of its literals alone, or for blanks alone and it selects
them, or for errors alone and it selects them, whatever binds the row and
whether or not the filter is inverted. Neither the order nor the repetition of
literals changes an answer, and with more literals, or with a flag set, a row
that was accepted is accepted still. -/
theorem accepts_iff_by_criterion (f : RowFilter) (project : Project) (index : Nat) (row : Row) :
    (f.Accepts project index row ↔
      (∃ value ∈ f.literals, (f.withCriteria [value] false false).Accepts project index row) ∨
      (f.selectsBlank = true ∧ (f.withCriteria [] true false).Accepts project index row) ∨
      (f.selectsError = true ∧ (f.withCriteria [] false true).Accepts project index row)) ∧
    (∀ literals, (∀ value, value ∈ literals ↔ value ∈ f.literals) →
      (f.withCriteria literals f.selectsBlank f.selectsError).test project index row =
        f.test project index row) ∧
    (∀ literals blank error, (∀ value ∈ f.literals, value ∈ literals) →
      (f.selectsBlank = true → blank = true) → (f.selectsError = true → error = true) →
      f.Accepts project index row →
      (f.withCriteria literals blank error).Accepts project index row) := by
  refine ⟨?_, fun literals hliterals => ?_,
    fun literals blank error hliterals hblank herror haccepts => ?_⟩
  · rw [accepts_iff_exists_only]
    constructor
    · rintro ⟨c, hasks, honly⟩
      cases c with
      | literal value => exact .inl ⟨value, hasks, honly⟩
      | blank => exact .inr (.inl ⟨hasks, honly⟩)
      | error => exact .inr (.inr ⟨hasks, honly⟩)
    · rintro (⟨value, hasks, honly⟩ | ⟨hasks, honly⟩ | ⟨hasks, honly⟩)
      · exact ⟨.literal value, hasks, honly⟩
      · exact ⟨.blank, hasks, honly⟩
      · exact ⟨.error, hasks, honly⟩
  · refine test_withCriteria (fun c => ?_) project index row
    cases c with
    | literal value => exact hliterals value
    | blank => exact Iff.rfl
    | error => exact Iff.rfl
  · refine haccepts.withCriteria fun c hasks => ?_
    cases c with
    | literal value => exact hliterals value hasks
    | blank => exact hblank hasks
    | error => exact herror hasks

end RowFilter

/-! ## Tickets for several reasons -/

namespace Tickets

/-- Tickets that say of themselves that they are closed and say nothing. -/
def silent : RowFilter := pending.asking (saying (.array [.string "closed", .null]))

/-- A ticket is selected for what it does not say, not for a state; asked for
closed tickets first, and for errors too, the filter accepts it still. -/
theorem silent_is_accepted :
    silent.Accepts project 0 Row.empty ∧
    ¬(silent.withCriteria [.string "open"] false false).Accepts project 0 Row.empty ∧
    (silent.withCriteria [] true false).Accepts project 0 Row.empty ∧
    (silent.withCriteria [.string "closed", .string "open"] true true).Accepts
      project 0 Row.empty := by
  obtain ⟨hunion, -, hmore⟩ := silent.accepts_iff_by_criterion project 0 Row.empty
  have hblank : (silent.withCriteria [] true false).Accepts project 0 Row.empty := rfl
  have haccepts := hunion.mpr (.inr (.inl ⟨rfl, hblank⟩))
  refine ⟨haccepts, nofun, hblank, hmore _ _ _ (fun value hvalue => ?_) (fun _ => rfl)
    (fun _ => rfl) haccepts⟩
  exact List.mem_cons_of_mem _ hvalue

end Tickets

end DataQuality
