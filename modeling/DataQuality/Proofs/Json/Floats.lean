import DataQuality.Json.Decode
import DataQuality.Proofs.Json.Scanning
/-!
# Floats in documents — every float has a numeral that can be read

The shortest digits of a float that is not zero are not zero: a candidate reads back, and
zero does not (`digits_ne_zero_of_readsBack`). So the digits before the point are led by
no zero but a single one, wherever the layout puts the point (`wellFormed_ofFloat`), and
the tree of a float is a written one.
-/

namespace DataQuality

namespace Decimal

/-! ## Digits -/

/-- A zero has no zeros behind it. -/
def Digits.Tidy (d : Digits) : Prop := d.digits = 0 → d.exponent ≤ 0

variable {b : Binary} {d : Digits}

/-- Zero lies below every bound that is not zero. -/
theorem compareScaled_zero {n : Nat} (hn : 0 < n) (i j : Int) : compareScaled 0 i n j = .lt := by
  rw [compareScaled, Nat.zero_mul, Nat.zero_mul, Nat.compare_eq_lt]
  exact Nat.mul_pos (Nat.mul_pos hn (Nat.pow_pos (by decide))) (Nat.pow_pos (by decide))

/-- **Zero does not read back as anything else.** -/
theorem Binary.digits_ne_zero_of_readsBack (hb : 0 < b.significand) (h : b.readsBack d = true) :
    d.digits ≠ 0 := by
  intro hzero
  have hlow : 0 < if b.narrowBelow then 4 * b.significand - 1 else 4 * b.significand - 2 := by
    split <;> omega
  rw [readsBack, hzero, compareScaled_zero hlow] at h
  simp at h

/-- A candidate reads back, whichever neighbour it is. -/
theorem Binary.readsBack_of_candidate? {tie : Tie} {scale : Int} {n : Nat}
    (h : b.candidate? tie scale n = some d) : b.readsBack d = true := by
  simp only [candidate?] at h
  generalize hlow : b.readsBack _ = low at h
  generalize hhigh : b.readsBack _ = high at h
  generalize compare (_ : Nat) _ = order at h
  cases low with
  | false =>
    cases high with
    | false => cases h
    | true => rwa [← Option.some.inj h]
  | true =>
    cases high with
    | false => rwa [← Option.some.inj h]
    | true =>
      cases order with
      | lt => rwa [← Option.some.inj h]
      | gt => rwa [← Option.some.inj h]
      | eq =>
        cases tie with
        | up => rwa [← Option.some.inj h]
        | toEven =>
          simp only at h
          split at h <;> rwa [← Option.some.inj h]

theorem Binary.exact_ne_zero (hb : 0 < b.significand) : b.exact.digits ≠ 0 :=
  Nat.ne_of_gt (Nat.mul_pos (Nat.mul_pos hb (Nat.pow_pos (by decide))) (Nat.pow_pos (by decide)))

/-- Moving zeros into the exponent leaves a digit. -/
theorem Digits.strip_ne_zero {fuel : Nat} (h : d.digits ≠ 0) : (d.strip fuel).digits ≠ 0 := by
  induction fuel generalizing d with
  | zero => exact h
  | succ fuel ih =>
    rw [strip]
    split
    · rename_i hzero
      exact ih (by simp only; omega)
    · exact h

/-- **Only zero has no digit but zero.** -/
theorem Binary.shortest_tidy (b : Binary) (tie : Tie) : (b.shortest tie).Tidy := by
  rw [shortest]
  split
  · exact fun _ => Int.le_refl 0
  · rename_i hb
    refine fun hzero => absurd hzero (Digits.strip_ne_zero ?_)
    have hpos : 0 < b.significand := Nat.pos_of_ne_zero hb
    cases hfound : (List.range 17).findSome? fun n => b.candidate? tie b.scale (n + 1) with
    | none => exact exact_ne_zero hpos
    | some d =>
      obtain ⟨n, -, hcandidate⟩ := List.exists_of_findSome?_eq_some hfound
      exact digits_ne_zero_of_readsBack hpos (readsBack_of_candidate? hcandidate)

/-! ## Layouts -/

/-- Digits that may stand before a point. -/
structure Leads (run : List Char) : Prop where
  ne_nil : run ≠ []
  digits : ∀ c ∈ run, c.isDigit = true
  leads : ∀ rest, run = '0' :: rest → rest = []

variable {run : List Char}

theorem leads_digitsOf (n : Nat) : Leads (digitsOf n) :=
  ⟨Nat.toDigits_ne_nil, fun _ => isDigit_of_mem_digitsOf, digitsOf_leads n⟩

theorem leads_zero : Leads ['0'] :=
  ⟨List.cons_ne_nil _ _, List.forall_mem_singleton.mpr rfl, fun _ h => (List.cons.inj h).2.symm⟩

/-- The point may come earlier, behind at least one digit. -/
theorem Leads.take (h : Leads run) {n : Nat} (hn : 0 < n) : Leads (run.take n) := by
  obtain ⟨c, rest, rfl⟩ := List.exists_cons_of_ne_nil h.ne_nil
  obtain ⟨n, rfl⟩ : ∃ m, n = m + 1 := ⟨n - 1, by omega⟩
  refine ⟨List.cons_ne_nil _ _, fun c hc => h.digits c (List.mem_of_mem_take hc), ?_⟩
  intro tail htail
  obtain ⟨rfl, rfl⟩ := List.cons.inj htail
  rw [h.leads rest rfl, List.take_nil]

/-- Zeros may follow, but not a zero. -/
theorem Leads.append_zeros (h : Leads run) {n : Nat} (hn : run = ['0'] → n = 0) :
    Leads (run ++ List.replicate n '0') := by
  obtain ⟨c, rest, rfl⟩ := List.exists_cons_of_ne_nil h.ne_nil
  refine ⟨List.cons_ne_nil _ _, fun c hc => ?_, fun tail htail => ?_⟩
  · obtain hc | hc := List.mem_append.mp hc
    · exact h.digits c hc
    · rw [List.eq_of_mem_replicate hc]
      rfl
  · obtain ⟨rfl, rfl⟩ := List.cons.inj htail
    have hnil : rest = [] := h.leads rest rfl
    rw [hnil, hn (by rw [hnil])]
    rfl

theorem eq_zero_of_digitsOf {n : Nat} (h : digitsOf n = ['0']) : n = 0 := by
  rw [← ofDigits_digitsOf n, h]
  rfl

/-- **However a layout puts the point, the numeral is well formed.** -/
theorem Layout.wellFormed_numeral (l : Layout) (negative : Bool) (h : d.Tidy) :
    (l.numeral negative d).WellFormed := by
  have hrun := leads_digitsOf d.digits
  have hlength : 0 < (digitsOf d.digits).length := List.length_pos_iff.mpr hrun.ne_nil
  have hwell : ∀ {whole fraction : List Char} {exponent : Option Int}, Leads whole →
      (∀ c ∈ fraction, c.isDigit = true) →
      (⟨negative, whole, fraction, exponent⟩ : Numeral).WellFormed :=
    fun hwhole hfraction => ⟨hwhole.ne_nil, hwhole.digits, hwhole.leads, hfraction⟩
  simp only [numeral]
  split
  · split
    · -- All digits stand before the point, and zeros behind them.
      refine hwell (hrun.append_zeros fun hzero => ?_) ?_
      · have hle := h (eq_zero_of_digitsOf hzero)
        omega
      · split
        · exact List.forall_mem_singleton.mpr rfl
        · exact List.forall_mem_nil _
    · split
      · exact hwell (hrun.take (by omega)) fun c hc => hrun.digits c (List.mem_of_mem_drop hc)
      · -- No digit stands before the point.
        refine hwell leads_zero fun c hc => ?_
        obtain hc | hc := List.mem_append.mp hc
        · rw [List.eq_of_mem_replicate hc]
          rfl
        · exact hrun.digits c hc
  · exact hwell (hrun.take (by decide)) fun c hc => hrun.digits c (List.mem_of_mem_drop hc)

theorem Layout.wellFormed_ofFloat (l : Layout) (x : Float) : (l.ofFloat x).WellFormed :=
  l.wellFormed_numeral _ (Binary.shortest_tidy _ _)

end Decimal

namespace Json.Tree

theorem written_ofNat (n : Nat) : (ofNat n).Written := .number (Decimal.Numeral.wellFormed_ofInt n)

/-- **The tree of a float is written**, null for what is not finite. -/
theorem written_ofFloat (x : Float) : (ofFloat x).Written := by
  rw [ofFloat]
  split
  · exact .number (Decimal.Layout.wellFormed_ofFloat _ x)
  · exact .null

end Json.Tree

end DataQuality
