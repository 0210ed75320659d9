import DataQuality.Decimal.Numeral
/-!
# Signed integers as text

A signed integer of 64 bits is read from decimal digits with at most one
sign in front; a plus sign is a sign. Nothing else may stand in the text.
-/

namespace DataQuality

namespace Decimal

/-- The integer of a text that is a sign, or none, and decimal digits. -/
def readInteger? : List Char → Option Int
  | '+' :: run => if run.isEmpty || !run.all Char.isDigit then none else some (ofDigits run)
  | '-' :: run => if run.isEmpty || !run.all Char.isDigit then none else some (-(ofDigits run : Int))
  | run => if run.isEmpty || !run.all Char.isDigit then none else some (ofDigits run)

/-- The integer of a text, if it fits 64 bits with sign. -/
def readInt64? (s : List Char) : Option Int64 :=
  match readInteger? s with
  | some n => if -9223372036854775808 ≤ n ∧ n < 9223372036854775808 then some (Int64.ofInt n) else none
  | none => none

/-! ## What is read -/

/-- A text of decimal digits; there is at least one. -/
def IsDigits (s : List Char) : Prop := s ≠ [] ∧ ∀ c ∈ s, c.isDigit = true

instance : DecidablePred IsDigits := fun s =>
  @instDecidableAnd _ _ inferInstance (List.decidableBAll (·.isDigit = true) s)

/-- The integer that a text spells: digits, with or without a sign. -/
inductive Spells : List Char → Int → Prop
  | unsigned {run : List Char} : IsDigits run → Spells run (ofDigits run)
  | plus {run : List Char} : IsDigits run → Spells ('+' :: run) (ofDigits run)
  | minus {run : List Char} : IsDigits run → Spells ('-' :: run) (-(ofDigits run : Int))

theorem Spells.ne_nil {s : List Char} {n : Int} (h : Spells s n) : s ≠ [] := by
  cases h with
  | unsigned hrun => exact hrun.1
  | plus _ => exact List.cons_ne_nil _ _
  | minus _ => exact List.cons_ne_nil _ _

theorem isDigits_iff {s : List Char} :
    IsDigits s ↔ ¬(s.isEmpty || !s.all Char.isDigit) = true := by
  simp [IsDigits]

/-- **Reading takes just the texts that spell an integer.** -/
theorem readInteger?_eq_some_iff {s : List Char} {n : Int} :
    readInteger? s = some n ↔ Spells s n := by
  constructor
  · intro h
    rw [readInteger?.eq_def] at h
    split at h <;> split at h <;> cases h <;> rename_i hrun
    · exact .plus (isDigits_iff.mpr hrun)
    · exact .minus (isDigits_iff.mpr hrun)
    · exact .unsigned (isDigits_iff.mpr hrun)
  · rintro (hrun | hrun | hrun)
    · -- The first character is a digit, so it is no sign.
      obtain ⟨hne, hall⟩ := id hrun
      obtain ⟨c, rest, rfl⟩ := List.exists_cons_of_ne_nil hne
      have hc : c.isDigit = true := hall c List.mem_cons_self
      have hplus : c ≠ '+' := fun h => absurd (h ▸ hc) (by decide)
      have hminus : c ≠ '-' := fun h => absurd (h ▸ hc) (by decide)
      rw [readInteger?.eq_def]
      split
      · rename_i heq
        exact absurd (List.cons.inj heq).1 hplus
      · rename_i heq
        exact absurd (List.cons.inj heq).1 hminus
      · exact if_neg (isDigits_iff.mp hrun)
    · exact if_neg (isDigits_iff.mp hrun)
    · exact if_neg (isDigits_iff.mp hrun)

/-- **Reading takes just the texts that spell an integer of 64 bits.** -/
theorem readInt64?_eq_some_iff {s : List Char} {n : Int64} :
    readInt64? s = some n ↔ Spells s n.toInt := by
  rw [readInt64?, ← readInteger?_eq_some_iff]
  constructor
  · intro h
    split at h
    · rename_i m hm
      split at h
      · rename_i hrange
        cases h
        rw [hm, Int64.toInt_ofInt_of_le hrange.1 hrange.2]
      · cases h
    · cases h
  · intro h
    rw [h]
    have hrange : -9223372036854775808 ≤ n.toInt ∧ n.toInt < 9223372036854775808 :=
      ⟨n.le_toInt, n.toInt_lt⟩
    simp only [if_pos hrange, Int64.ofInt_toInt]

/-! ## What is written -/

theorem isDigits_digitsOf (n : Nat) : IsDigits (digitsOf n) :=
  ⟨Nat.toDigits_ne_nil, fun _ => isDigit_of_mem_digitsOf⟩

/-- **The text of an integer spells it.** -/
theorem spells_integerText (n : Int) : Spells (integerText n) n := by
  have hdigits := isDigits_digitsOf n.natAbs
  have hvalue : (ofDigits (digitsOf n.natAbs) : Int) = n.natAbs := by rw [ofDigits_digitsOf]
  rw [integerText]
  split
  · have hsigned : -(ofDigits (digitsOf n.natAbs) : Int) = n := by omega
    have hspells := Spells.minus hdigits
    rwa [hsigned] at hspells
  · have hunsigned : (ofDigits (digitsOf n.natAbs) : Int) = n := by omega
    have hspells := Spells.unsigned hdigits
    rwa [hunsigned] at hspells

end Decimal

end DataQuality
