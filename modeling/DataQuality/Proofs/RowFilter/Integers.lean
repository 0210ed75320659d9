import DataQuality.Proofs.Binary64.Integers
import DataQuality.Proofs.RowFilter.Criteria
import DataQuality.Proofs.RowFilter.Scalars
/-!
# Integers — literals that are compared as floats

Numbers match when their floats are equal, integers among themselves too. So a
filter takes integers for one another just when they are rounded to the same
integer of 53 bits, and up to 53 bits just when they are the same
(`RowFilter.integers_match_when_nearest`).
-/

namespace DataQuality

open Binary64 (nearestInt)

namespace Json.Number

theorem toInt64?_ofInt64 (n : Int64) : (ofInt64 n).toInt64? = some n := by
  have hlt : n.toInt < 9223372036854775808 := n.toInt_lt
  rw [ofInt64, toInt64?, if_pos hlt, Int64.ofInt_toInt]

end Json.Number

namespace Value

variable {a b : Int64}

/-- An integer matches another one just when they have the same nearest integer
of 53 significant bits. -/
theorem matchesLiteral_int_iff :
    (int a).matchesLiteral (int b) = true ↔ nearestInt a.toInt = nearestInt b.toInt :=
  Binary64.ofInt_beq_iff (Binary64.log2_toInt_lt a) (Binary64.log2_toInt_lt b)

end Value

namespace RowFilter

variable {f : RowFilter} {project : Project} {index : Nat} {row : Row} {bindings : Bindings}
variable {v : Value}

/-- A row whose expression has a result is accepted if the result is selected. -/
theorem accepts_of_value (hinverted : f.inverted = false)
    (hsees : f.Sees project index row bindings) (hv : f.expression.evaluate bindings = .ok v) :
    f.Accepts project index row ↔ f.selectsResult v = true := by
  rw [Accepts, test_of_value hsees hv, hinverted]
  simp

/-- **A filter takes integers for one another when they are rounded to the same
integer** of 53 significant bits: it accepts a row whose expression results in
`a`, plainly or as JSON, for the literal `b` just when that is so. Where one of
the two has no more than 53 bits they are the same. -/
theorem integers_match_when_nearest (a b : Int64) (v : Value)
    (hv : v = .int a ∨ v = .json (.number (.ofInt64 a))) :
    (∀ f : RowFilter, f.literals = [.int b] → f.inverted = false →
      ∀ project index row bindings, f.Sees project index row bindings →
        f.expression.evaluate bindings = .ok v →
        (f.Accepts project index row ↔ nearestInt a.toInt = nearestInt b.toInt)) ∧
    (a.toInt.natAbs < 2 ^ 53 ∨ b.toInt.natAbs < 2 ^ 53 →
      (nearestInt a.toInt = nearestInt b.toInt ↔ a = b)) := by
  have hselects : ∀ f : RowFilter, f.literals = [.int b] →
      (f.selectsResult v = true ↔ nearestInt a.toInt = nearestInt b.toInt) := by
    intro f hliterals
    have hint : f.selects (.int a) = (Value.int a).matchesLiteral (.int b) := by
      rw [selects_of_isData rfl, hliterals, List.any_cons, List.any_nil, Bool.or_false]
    rw [← Value.matchesLiteral_int_iff, ← hint]
    rcases hv with rfl | rfl
    · exact Iff.rfl
    · have hplain : (Json.number (.ofInt64 a)).Plain (.int a) :=
        .integer (Json.Number.toInt64?_ofInt64 a)
      rw [selectsResult_of_plain hplain, selects_of_plain hplain nofun]
  refine ⟨fun f hliterals hinverted project index row bindings hsees hresult => ?_,
    fun hsmall => ?_⟩
  · rw [accepts_of_value hinverted hsees hresult, hselects f hliterals]
  · rw [← Int64.toInt_inj]
    rcases hsmall with ha | hb
    · exact Binary64.nearestInt_eq_iff ha
    · rw [eq_comm, Binary64.nearestInt_eq_iff hb, eq_comm]

end RowFilter

/-! ## Tickets by their number -/

namespace Tickets

/-- The ticket with this number, of tickets that give their number. -/
def numbered (number : Int64) (given : Value) : RowFilter :=
  { pending with expression := ⟨"number", fun _ => .ok given⟩, literals := [.int number] }

/-- The number after `2 ^ 53` is taken for it, given as JSON too, but not for
the next even number. -/
theorem odd_number_is_rounded :
    let given : Value := .json (.number (.ofInt64 9007199254740993))
    (numbered 9007199254740992 given).Accepts project 0 Row.empty ∧
      ¬(numbered 9007199254740994 given).Accepts project 0 Row.empty := by
  intro given
  have hbound : ∀ number, (numbered number given).Sees project 0 Row.empty
      ((Bindings.ofProject project).setColumn "state" none) := fun _ => rfl
  obtain ⟨heven, -⟩ := RowFilter.integers_match_when_nearest 9007199254740993 9007199254740992
    given (.inr rfl)
  obtain ⟨hnext, -⟩ := RowFilter.integers_match_when_nearest 9007199254740993 9007199254740994
    given (.inr rfl)
  constructor
  · exact (heven _ rfl rfl _ _ _ _ (hbound _) rfl).mpr (by decide)
  · exact fun h => absurd ((hnext _ rfl rfl _ _ _ _ (hbound _) rfl).mp h) (by decide)

/-- So a ticket is accepted for a number that it does not have. -/
theorem odd_number_is_accepted :
    (numbered 9007199254740992 (.int 9007199254740993)).Accepts project 0 Row.empty ∧
      (9007199254740993 : Int64) ≠ 9007199254740992 :=
  ⟨rfl, by decide⟩

end Tickets

end DataQuality
