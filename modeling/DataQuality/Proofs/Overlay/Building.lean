import DataQuality.Proofs.Overlay.Place
/-!
# Building — what an overlay holds after metrics are added

A column metric is added at its place, and every other place keeps what it
held (`columnMetric?_add`). A spanning metric is added after the last one.
So after a list of additions a column and a name hold the last metric that
was added there (`columnMetric?_addAll`), and the spanning metrics are
listed as they came (`spanning_addAllSpanning`).
-/

namespace DataQuality

/-- Where a column metric is stored. A missing column has the empty name. -/
def ColumnMetric.place (m : ColumnMetric) : Place := .column (m.column.getD "") m.rule.name

theorem ColumnMetric.place_eq_iff {m : ColumnMetric} {c n : String} :
    m.place = .column c n ↔ m.column.getD "" = c ∧ m.rule.name = n := by
  rw [place, Place.column.injEq]

namespace Overlay

variable {o : Overlay} {c n : String} {m : ColumnMetric} {s : SpanningMetric}

/-- The column metric that is stored under a column and a name. -/
def columnMetric? (o : Overlay) (c n : String) : Option ColumnMetric :=
  (o.columns.get? c).bind (·.get? n)

theorem at?_column : o.at? (.column c n) = (o.columnMetric? c n).map .column := rfl

theorem at?_column_eq_some_iff : o.at? (.column c n) = some (.column m) ↔
    o.columnMetric? c n = some m := by
  rw [at?_column, Option.map_eq_some_iff]
  constructor
  · rintro ⟨m', hm', heq⟩
    rw [hm', Metric.column.inj heq]
  · intro hm
    exact ⟨m, hm, rfl⟩

@[simp] theorem columnMetric?_ofUniqueness : (ofUniqueness s).columnMetric? c n = none := rfl

/-! ## One addition -/

@[simp] theorem uniqueness_add : (o.add m).uniqueness = o.uniqueness := rfl

@[simp] theorem spanning_add : (o.add m).spanning = o.spanning := rfl

@[simp] theorem uniqueness_addSpanning : (o.addSpanning s).uniqueness = o.uniqueness := rfl

@[simp] theorem spanning_addSpanning : (o.addSpanning s).spanning = o.spanning ++ [s] := rfl

@[simp] theorem columnMetric?_addSpanning :
    (o.addSpanning s).columnMetric? c n = o.columnMetric? c n := rfl

/-- **A column metric is added at its place** and nowhere else. -/
theorem columnMetric?_add : (o.add m).columnMetric? c n =
    if m.place = .column c n then some m else o.columnMetric? c n := by
  rw [add, columnMetric?, OrderedMap.get?_insert]
  -- Two writes are nested: one of the name in its column and one of the column.
  by_cases hc : m.column.getD "" = c
  · rw [if_pos hc, Option.bind_some, OrderedMap.get?_insert]
    by_cases hn : m.rule.name = n
    · rw [if_pos hn, if_pos (ColumnMetric.place_eq_iff.mpr ⟨hc, hn⟩)]
    · have hplace : m.place ≠ .column c n := fun h => hn (ColumnMetric.place_eq_iff.mp h).2
      rw [if_neg hn, if_neg hplace, columnMetric?, hc]
      cases o.columns.get? c with
      | none => rfl
      | some named => rfl
  · have hplace : m.place ≠ .column c n := fun h => hc (ColumnMetric.place_eq_iff.mp h).1
    rw [if_neg hc, if_neg hplace]
    rfl

/-! ## A list of additions -/

/-- Adds column metrics in order. -/
def addAll (o : Overlay) (ms : List ColumnMetric) : Overlay := ms.foldl add o

/-- Adds spanning metrics in order. -/
def addAllSpanning (o : Overlay) (ss : List SpanningMetric) : Overlay := ss.foldl addSpanning o

/-- What every addition keeps, a list of additions keeps. -/
theorem foldl_keeps {α β : Type} {step : Overlay → α → Overlay} (part : Overlay → β)
    (h : ∀ o a, part (step o a) = part o) (l : List α) : part (l.foldl step o) = part o := by
  induction l generalizing o with
  | nil => rfl
  | cons a rest ih => exact (ih (o := step o a)).trans (h o a)

@[simp] theorem uniqueness_addAll (ms : List ColumnMetric) :
    (o.addAll ms).uniqueness = o.uniqueness :=
  foldl_keeps uniqueness (fun _ _ => uniqueness_add) ms

@[simp] theorem spanning_addAll (ms : List ColumnMetric) :
    (o.addAll ms).spanning = o.spanning :=
  foldl_keeps spanning (fun _ _ => spanning_add) ms

/-- **The last addition shows.** A column and a name hold the last metric
that was added there, and what they held before if there is none. -/
theorem columnMetric?_addAll (ms : List ColumnMetric) : (o.addAll ms).columnMetric? c n =
    (ms.reverse.find? (·.place = .column c n)).or (o.columnMetric? c n) := by
  induction ms generalizing o with
  | nil => rfl
  | cons m rest ih =>
    have hrest : (o.addAll (m :: rest)).columnMetric? c n = _ := ih (o := o.add m)
    rw [hrest, columnMetric?_add, List.reverse_cons, List.find?_append, Option.or_assoc,
      List.find?_singleton]
    by_cases hplace : m.place = .column c n
    · rw [if_pos hplace, if_pos (decide_eq_true hplace), Option.some_or]
    · rw [if_neg hplace, if_neg (by simpa using hplace), Option.none_or]

@[simp] theorem uniqueness_addAllSpanning (ss : List SpanningMetric) :
    (o.addAllSpanning ss).uniqueness = o.uniqueness :=
  foldl_keeps uniqueness (fun _ _ => uniqueness_addSpanning) ss

@[simp] theorem columnMetric?_addAllSpanning (ss : List SpanningMetric) :
    (o.addAllSpanning ss).columnMetric? c n = o.columnMetric? c n :=
  foldl_keeps (·.columnMetric? c n) (fun _ _ => columnMetric?_addSpanning) ss

/-- Spanning metrics are listed as they came. -/
@[simp] theorem spanning_addAllSpanning (ss : List SpanningMetric) :
    (o.addAllSpanning ss).spanning = o.spanning ++ ss := by
  induction ss generalizing o with
  | nil => exact (List.append_nil _).symm
  | cons s rest ih =>
    have hrest : (o.addAllSpanning (s :: rest)).spanning = _ := ih (o := o.addSpanning s)
    rw [hrest, spanning_addSpanning, List.append_assoc, List.singleton_append]

end Overlay

end DataQuality
