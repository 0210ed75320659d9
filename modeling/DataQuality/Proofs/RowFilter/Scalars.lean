import DataQuality.Proofs.RowFilter.Rows
/-!
# Scalars — JSON results and their plain values

A JSON scalar has a plain value (`Json.Plain`), which a filter puts in its
place where it is the element of an array, but not where it is the result
itself. Literals match the two alike (`Value.matchesLiteral_of_plain`), and
neither is an error. Only the empty string parts them: as a plain value it is
blank, and as JSON it is data. So a filter selects every other scalar as its
plain value, and a result as the array of it alone
(`RowFilter.scalar_is_selected_as_plain`).
-/

namespace DataQuality

/-! ## Plain values -/

/-- A document that is neither an array nor an object. -/
def Json.IsScalar : Json → Prop
  | .array _ => False
  | .object _ => False
  | _ => True

/-- The plain value of a scalar. A number is an integer where it fits 64 bits
with sign, and else a float. -/
inductive Json.Plain : Json → Value → Prop
  | null : Plain .null .null
  | bool (b : Bool) : Plain (.bool b) (.bool b)
  | integer {n : Json.Number} {i : Int64} : n.toInt64? = some i → Plain (.number n) (.int i)
  | float {n : Json.Number} : n.toInt64? = none → Plain (.number n) (.float n.toFloat)
  | string (s : String) : Plain (.string s) (.string s)

namespace Value

variable {j : Json} {plain : Value}

/-- Decoding a scalar gives its plain value. -/
theorem ofScalar_of_plain (h : j.Plain plain) : ofScalar j = .ok plain := by
  cases h with
  | null => rfl
  | bool b => rfl
  | integer hn => simp only [ofScalar, hn]
  | float hn => simp only [ofScalar, hn]
  | string s => rfl

/-- **Every scalar has a plain value.** -/
theorem exists_plain (h : j.IsScalar) : ∃ plain, j.Plain plain := by
  cases j with
  | null => exact ⟨_, .null⟩
  | bool b => exact ⟨_, .bool b⟩
  | number n =>
    cases hn : n.toInt64? with
    | some i => exact ⟨_, .integer hn⟩
    | none => exact ⟨_, .float hn⟩
  | string s => exact ⟨_, .string s⟩
  | array items => exact h.elim
  | object fields => exact h.elim

theorem isError_of_plain (h : j.Plain plain) : plain.isError = false := by
  cases h <;> rfl

/-- **The empty string alone is blank as a plain value and data as JSON.** -/
theorem isBlank_of_plain (h : j.Plain plain) (hempty : j ≠ .string "") :
    plain.isBlank = (json j).isBlank := by
  cases h with
  | null => rfl
  | bool b => rfl
  | integer _ => rfl
  | float _ => rfl
  | string s =>
    have hs : s ≠ "" := fun hs => hempty (congrArg Json.string hs)
    simpa [isBlank] using hs

/-- **Literals match a scalar as its plain value.** -/
theorem matchesLiteral_of_plain (h : j.Plain plain) (literal : Value) :
    (json j).matchesLiteral literal = plain.matchesLiteral literal := by
  have hagrees : (json j).matchesLiteral literal = plain.agrees literal := by
    rw [matchesLiteral.eq_def]
    simp only [ofScalar_of_plain h]
  rw [hagrees]
  cases h <;> rfl

/-- A string matches no literal but itself. -/
theorem matchesLiteral_string_iff {s : String} {literal : Value} :
    (string s).matchesLiteral literal = true ↔ literal = string s := by
  change same (string s) literal = true ↔ literal = string s
  cases literal with
  | string t =>
    rw [string.injEq]
    exact beq_iff_eq.trans eq_comm
  | _ => simp [same]

end Value

namespace RowFilter

variable {f : RowFilter} {j : Json} {plain : Value}

/-! ## What a filter selects -/

/-- A scalar that is not the empty string is selected as its plain value. -/
theorem selects_of_plain (h : j.Plain plain) (hempty : j ≠ .string "") :
    f.selects (.json j) = f.selects plain := by
  have hmatches : (Value.json j).matchesLiteral = plain.matchesLiteral :=
    funext (Value.matchesLiteral_of_plain h)
  have herror : (Value.json j).isError = plain.isError := (Value.isError_of_plain h).symm
  rw [selects, selects, Value.isData, Value.isData, herror, Value.isBlank_of_plain h hempty,
    hmatches]

/-- The empty string is looked for among the literals. -/
theorem selects_empty_iff : f.selects (.json (.string "")) = true ↔ .string "" ∈ f.literals := by
  change f.literals.any (Value.json (.string "")).matchesLiteral = true ↔ _
  rw [List.any_eq_true]
  simp only [Value.matchesLiteral_of_plain (.string ""), Value.matchesLiteral_string_iff,
    exists_eq_right]

/-- The result of a scalar is selected if the scalar is. -/
theorem selectsResult_of_plain (h : j.Plain plain) :
    f.selectsResult (.json j) = f.selects (.json j) := by
  cases h <;> rfl

/-- The array of one scalar is selected if the plain value is. -/
theorem selectsResult_singleton (h : j.Plain plain) :
    f.selectsResult (.json (.array [j])) = f.selects plain := by
  change (plainValues [j]).any f.selects = f.selects plain
  simp [plainValues, Value.ofScalar_of_plain h, Except.toOption]

/-- **A scalar is selected as its plain value**, by itself and as a result in
the place of the array of it alone, whatever the literals and flags. The empty
string is not: it is looked for among the literals, and its plain value is
blank. -/
theorem scalar_is_selected_as_plain (f : RowFilter) (hj : j.IsScalar) :
    ∃ plain, Value.ofScalar j = .ok plain ∧
      (j ≠ .string "" → f.selects (.json j) = f.selects plain ∧
        ∀ (e e' : Expression) (project : Project) (index : Nat) (row : Row),
          (∀ b, f.Sees project index row b →
            e.evaluate b = .ok (.json j) ∧ e'.evaluate b = .ok (.json (.array [j]))) →
          (f.asking e).test project index row = (f.asking e').test project index row) ∧
      (j = .string "" → (f.selects (.json j) = true ↔ .string "" ∈ f.literals) ∧
        f.selects plain = f.selectsBlank) := by
  obtain ⟨plain, hplain⟩ := Value.exists_plain hj
  refine ⟨plain, Value.ofScalar_of_plain hplain, ?_, ?_⟩
  · intro hempty
    have hselects := selects_of_plain (f := f) hplain hempty
    refine ⟨hselects, fun e e' project index row hresults => test_congr fun b hb => ?_⟩
    obtain ⟨hscalar, harray⟩ := hresults b hb
    refine ⟨_, _, hscalar, harray, ?_⟩
    rw [selectsResult_of_plain hplain, selectsResult_singleton hplain, hselects]
  · rintro rfl
    cases hplain with
    | string _ => exact ⟨selects_empty_iff, rfl⟩

end RowFilter

/-! ## Tickets -/

namespace Tickets

/-- Tickets by their state. -/
def project : Project where
  name := "tickets"
  columns := ⟨["state"]⟩
  rows := [Row.ofValues [.string "open"]]

/-- What a ticket says of itself, whatever it is asked under. -/
def saying (j : Json) : Expression := ⟨"saying", fun _ => .ok (.json j)⟩

/-- Tickets that are open or say nothing. -/
def pending : RowFilter where
  expression := saying .null
  column := "state"
  cellIndex := some 0
  literals := [.string "open"]
  selectsBlank := true
  selectsError := false
  inverted := false
  binder := Binder.plain

/-- A number too great for 64 bits with sign. -/
def distant : Json := .number (.integer 9223372036854775808 (by decide) (by decide))

/-- Such a number is selected as the float it stands for. -/
theorem distant_is_selected_as_plain : distant.IsScalar ∧ distant ≠ .string "" ∧
    ∃ plain, Value.ofScalar distant = .ok plain ∧
      pending.selects (.json distant) = pending.selects plain ∧
      ∀ index row, (pending.asking (saying distant)).test project index row =
        (pending.asking (saying (.array [distant]))).test project index row := by
  have hempty : distant ≠ .string "" := nofun
  obtain ⟨plain, hplain, hother, -⟩ := pending.scalar_is_selected_as_plain (j := distant) trivial
  obtain ⟨hselects, htests⟩ := hother hempty
  exact ⟨trivial, hempty, plain, hplain, hselects,
    fun index row => htests _ _ project index row fun _ _ => ⟨rfl, rfl⟩⟩

/-- **A ticket that says the empty string is not taken for one that says
nothing**, though the string is blank. In an array it is. -/
theorem empty_is_not_selected_as_plain : Json.IsScalar (.string "") ∧
    Value.ofScalar (.string "") = .ok (.string "") ∧
    pending.selects (.string "") = true ∧ pending.selects (.json (.string "")) = false ∧
    ∀ index row,
      ((pending.asking (saying (.array [.string ""]))).test project index row).2 = .ok true ∧
      ((pending.asking (saying (.string ""))).test project index row).2 = .ok false :=
  ⟨trivial, rfl, rfl, rfl, fun _ _ => ⟨rfl, rfl⟩⟩

end Tickets

end DataQuality
