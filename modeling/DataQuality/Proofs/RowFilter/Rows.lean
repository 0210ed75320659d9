import DataQuality.RowFilter.Basic
/-!
# Rows — what a filter answers for a row

A filter binds a row (`RowFilter.Sees`) and asks its expression under these
bindings. A row that is refused is not accepted, and one that is bound is
answered for by what the expression results in (`RowFilter.test_of_sees`), so
that two expressions whose results are selected alike are answered for alike
(`RowFilter.test_congr`).
-/

namespace DataQuality

namespace RowFilter

variable {f : RowFilter} {project : Project} {index : Nat} {row : Row} {b : Bindings}

/-- The filter asks its expression about the row under the bindings. -/
def Sees (f : RowFilter) (project : Project) (index : Nat) (row : Row) (b : Bindings) : Prop :=
  f.binder.bind (f.binder.create project) row index f.column (f.cellIndex.bind row.cell?) = .ok b

/-- The filter with another expression. -/
def asking (f : RowFilter) (e : Expression) : RowFilter := { f with expression := e }

/-- A row is bound or refused. -/
theorem sees_or_refused (f : RowFilter) (project : Project) (index : Nat) (row : Row) :
    (∃ b, f.Sees project index row b) ∨
      ∃ fault, f.binder.bind (f.binder.create project) row index f.column
        (f.cellIndex.bind row.cell?) = .error fault := by
  cases hbound : f.binder.bind (f.binder.create project) row index f.column
      (f.cellIndex.bind row.cell?) with
  | error fault => exact .inr ⟨fault, rfl⟩
  | ok b => exact .inl ⟨b, hbound⟩

/-- A row that is refused is not accepted, whatever the expression. -/
theorem test_of_refused {fault : Fault}
    (h : f.binder.bind (f.binder.create project) row index f.column
      (f.cellIndex.bind row.cell?) = .error fault) :
    f.test project index row = ([.filterRefused index fault.message], .ok false) := by
  rw [test, h]

/-- **A row that is bound is answered for** by the result of the expression. -/
theorem test_of_sees (h : f.Sees project index row b) :
    (f.test project index row).2 =
      (f.expression.evaluate b).map fun result => f.selectsResult result && !f.inverted := by
  rw [Sees] at h
  rw [test, h]
  simp only
  cases f.expression.evaluate b <;> rfl

/-- And what is answered is reported. -/
theorem test_of_value {v : Value} (h : f.Sees project index row b)
    (hv : f.expression.evaluate b = .ok v) :
    f.test project index row =
      ([.rowFiltered index (f.selectsResult v)], .ok (f.selectsResult v && !f.inverted)) := by
  rw [Sees] at h
  rw [test, h]
  simp only [hv]

/-- **A row is tested by the result alone**: two expressions whose results on
it are both selected or both not are answered for alike. -/
theorem test_congr {e e' : Expression}
    (h : ∀ b, f.Sees project index row b → ∃ v w, e.evaluate b = .ok v ∧ e'.evaluate b = .ok w ∧
      f.selectsResult v = f.selectsResult w) :
    (f.asking e).test project index row = (f.asking e').test project index row := by
  rcases f.sees_or_refused project index row with ⟨b, hbound⟩ | ⟨fault, hrefused⟩
  · obtain ⟨v, w, hv, hw, hsame⟩ := h b hbound
    have htest := test_of_value (f := f.asking e) hbound hv
    have htest' := test_of_value (f := f.asking e') hbound hw
    have hsame : (f.asking e).selectsResult v = (f.asking e').selectsResult w := hsame
    rw [htest, htest', hsame]
    rfl
  · -- No expression is asked about a row that is refused.
    exact (test_of_refused (f := f.asking e) hrefused).trans
      (test_of_refused (f := f.asking e') hrefused).symm

end RowFilter

end DataQuality
