import DataQuality.Proofs.RowFilter.Scalars
/-!
# Arrays — JSON arrays and the values they list

An array of JSON lists the plain values of its scalars (`Json.Plains`); what
is nested in it has none and is passed over. A filter selects the array just
when it selects one of these values (`RowFilter.selectsResult_array_iff`), so
it takes the array as the list of them, and neither their order, nor how often
one stands there, nor what is nested between them matters
(`RowFilter.array_is_selected_by_its_scalars`).
-/

namespace DataQuality

variable {j : Json} {plain : Value} {elements others : List Json} {values : List Value}

/-! ## Plain values of an array -/

/-- The plain values of the scalars among the elements, in their order. -/
inductive Json.Plains : List Json → List Value → Prop
  | nil : Plains [] []
  | scalar {j : Json} {plain : Value} {elements : List Json} {values : List Value} :
      j.Plain plain → Plains elements values → Plains (j :: elements) (plain :: values)
  | nested {j : Json} {elements : List Json} {values : List Value} :
      ¬j.IsScalar → Plains elements values → Plains (j :: elements) values

theorem Json.Plain.isScalar (h : j.Plain plain) : j.IsScalar := by
  cases h <;> trivial

theorem Value.ofScalar_of_nested (h : ¬j.IsScalar) : ofScalar j = .error (.notScalar j) := by
  cases j with
  | array items => rfl
  | object fields => rfl
  | _ => exact absurd trivial h

/-- Decoding gives the plain value and nothing else. -/
theorem Value.ofScalar_eq_ok_iff : ofScalar j = .ok plain ↔ j.Plain plain := by
  constructor
  · intro h
    by_cases hj : j.IsScalar
    · obtain ⟨other, hother⟩ := exists_plain hj
      rw [ofScalar_of_plain hother] at h
      cases h
      exact hother
    · rw [ofScalar_of_nested hj] at h
      cases h
  · exact ofScalar_of_plain

/-- **Every array has its plain values.** -/
theorem Json.exists_plains (elements : List Json) : ∃ values, Plains elements values := by
  induction elements with
  | nil => exact ⟨[], .nil⟩
  | cons j elements ih =>
    obtain ⟨values, hvalues⟩ := ih
    by_cases hj : j.IsScalar
    · obtain ⟨plain, hplain⟩ := Value.exists_plain hj
      exact ⟨plain :: values, .scalar hplain hvalues⟩
    · exact ⟨values, .nested hj hvalues⟩

namespace RowFilter

variable {f : RowFilter} {project : Project} {index : Nat} {row : Row}

theorem plainValues_of_plains (h : Json.Plains elements values) :
    plainValues elements = values := by
  induction h with
  | nil => rfl
  | scalar hplain _ ih =>
    rw [plainValues, List.filterMap_cons, Value.ofScalar_of_plain hplain, ← plainValues, ih]
    rfl
  | nested hj _ ih =>
    rw [plainValues, List.filterMap_cons, Value.ofScalar_of_nested hj, ← plainValues, ih]
    rfl

theorem mem_plainValues_iff : plain ∈ plainValues elements ↔ ∃ j ∈ elements, j.Plain plain := by
  have hdecoded : ∀ j, (Value.ofScalar j).toOption = some plain ↔ j.Plain plain := by
    intro j
    rw [← Value.ofScalar_eq_ok_iff]
    cases Value.ofScalar j <;> simp [Except.toOption]
  simp only [plainValues, List.mem_filterMap, hdecoded]

/-! ## What a filter selects -/

/-- **An array is selected** just when the plain value of one of its scalars
is. -/
theorem selectsResult_array_iff :
    f.selectsResult (.json (.array elements)) = true ↔
      ∃ j ∈ elements, ∃ plain, j.Plain plain ∧ f.selects plain = true := by
  change (plainValues elements).any f.selects = true ↔ _
  rw [List.any_eq_true]
  constructor
  · rintro ⟨plain, hmem, hselects⟩
    obtain ⟨j, hj, hplain⟩ := mem_plainValues_iff.mp hmem
    exact ⟨j, hj, plain, hplain, hselects⟩
  · rintro ⟨j, hj, plain, hplain, hselects⟩
    exact ⟨plain, mem_plainValues_iff.mpr ⟨j, hj, hplain⟩, hselects⟩

/-- It is selected as the list of its plain values. -/
theorem selectsResult_of_plains (h : Json.Plains elements values) :
    f.selectsResult (.json (.array elements)) = f.selectsResult (.array values) := by
  change (plainValues elements).any f.selects = values.any f.selects
  rw [plainValues_of_plains h]

/-- Arrays of the same scalars are selected alike. -/
theorem selectsResult_congr (h : ∀ j, j.IsScalar → (j ∈ others ↔ j ∈ elements)) :
    f.selectsResult (.json (.array others)) = f.selectsResult (.json (.array elements)) := by
  rw [Bool.eq_iff_iff, selectsResult_array_iff, selectsResult_array_iff]
  constructor
  · rintro ⟨j, hj, plain, hplain, hselects⟩
    exact ⟨j, (h j hplain.isScalar).mp hj, plain, hplain, hselects⟩
  · rintro ⟨j, hj, plain, hplain, hselects⟩
    exact ⟨j, (h j hplain.isScalar).mpr hj, plain, hplain, hselects⟩

/-- Asked about the row, the expression results in the value. -/
def Hears (f : RowFilter) (project : Project) (index : Nat) (row : Row) (e : Expression)
    (v : Value) : Prop :=
  ∀ b, f.Sees project index row b → e.evaluate b = .ok v

/-- Results that are selected alike are answered for alike. -/
theorem test_of_hears {e e' : Expression} {v w : Value} (hv : f.Hears project index row e v)
    (hw : f.Hears project index row e' w) (h : f.selectsResult v = f.selectsResult w) :
    (f.asking e).test project index row = (f.asking e').test project index row :=
  test_congr fun b hb => ⟨v, w, hv b hb, hw b hb, h⟩

/-- A row that is accepted has a result that is selected. -/
theorem selectsResult_of_accepted {e : Expression} {v : Value}
    (hv : f.Hears project index row e v)
    (haccepted : ((f.asking e).test project index row).2 = .ok true) :
    f.selectsResult v = true := by
  rcases f.sees_or_refused project index row with ⟨b, hbound⟩ | ⟨fault, hrefused⟩
  · rw [test_of_value (f := f.asking e) hbound (hv b hbound)] at haccepted
    have hboth := Except.ok.inj haccepted
    exact (Bool.and_eq_true_iff.mp hboth).1
  · rw [test_of_refused (f := f.asking e) hrefused] at haccepted
    cases haccepted

/-- **An array is selected by its scalars**, whatever the literals and flags
and whatever binds the row. It is answered for as the list of their plain
values; another array of the same scalars, in any order, repeated or among
other nested elements, is answered for alike; and where the row is accepted,
one of the scalars is selected. -/
theorem array_is_selected_by_its_scalars (elements : List Json) {e : Expression}
    (harray : f.Hears project index row e (.json (.array elements))) :
    (∃ values, Json.Plains elements values ∧ ∀ e',
      f.Hears project index row e' (.array values) →
      (f.asking e).test project index row = (f.asking e').test project index row) ∧
    (∀ others, (∀ j, j.IsScalar → (j ∈ others ↔ j ∈ elements)) → ∀ e',
      f.Hears project index row e' (.json (.array others)) →
      (f.asking e).test project index row = (f.asking e').test project index row) ∧
    (((f.asking e).test project index row).2 = .ok true →
      ∃ j ∈ elements, ∃ plain, j.Plain plain ∧ f.selects plain = true) := by
  refine ⟨?_, ?_, ?_⟩
  · obtain ⟨values, hvalues⟩ := Json.exists_plains elements
    exact ⟨values, hvalues, fun e' hlist =>
      test_of_hears harray hlist (selectsResult_of_plains hvalues)⟩
  · intro others hsame e' hothers
    exact test_of_hears harray hothers (selectsResult_congr hsame).symm
  · intro haccepted
    exact selectsResult_array_iff.mp (selectsResult_of_accepted harray haccepted)

end RowFilter

/-! ## Tickets with several states -/

namespace Tickets

/-- Tickets that are open, say nothing or fail to say it. -/
def unsettled : RowFilter := { pending with selectsError := true }

/-- **A ticket that says nested things only is not selected**, not even for an
error. Beside a state they do not matter, nor does the state's repetition. -/
theorem nested_is_not_selected :
    unsettled.Hears project 0 Row.empty (saying (.array [.array [.null], .object []]))
      (.json (.array [.array [.null], .object []])) ∧
    ((unsettled.asking (saying (.array [.array [.null], .object []]))).test
      project 0 Row.empty).2 ≠ .ok true ∧
    (unsettled.asking (saying (.array [.object [], .string "open"]))).test project 0 Row.empty =
      (unsettled.asking (saying (.array [.string "open", .string "open"]))).test
        project 0 Row.empty := by
  have hhears : ∀ elements, unsettled.Hears project 0 Row.empty (saying (.array elements))
      (.json (.array elements)) := fun _ _ _ => rfl
  obtain ⟨-, -, hnested⟩ := RowFilter.array_is_selected_by_its_scalars
    [.array [.null], .object []] (hhears _)
  obtain ⟨-, hrepeated, -⟩ := RowFilter.array_is_selected_by_its_scalars
    [.object [], .string "open"] (hhears _)
  have hsame : ∀ j : Json, j.IsScalar →
      (j ∈ [Json.string "open", .string "open"] ↔ j ∈ [Json.object [], .string "open"]) := by
    intro j hj
    have hobject : j ≠ .object [] := by
      rintro rfl
      exact hj
    simp [hobject]
  refine ⟨hhears _, ?_, hrepeated _ hsame _ (hhears _)⟩
  intro haccepted
  obtain ⟨j, hj, plain, hplain, -⟩ := hnested haccepted
  have hscalar := hplain.isScalar
  rcases List.mem_cons.mp hj with rfl | hj
  · exact hscalar
  · cases List.mem_singleton.mp hj
    exact hscalar

end Tickets

end DataQuality
