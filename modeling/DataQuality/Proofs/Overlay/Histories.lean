import DataQuality.Proofs.Overlay.Building
import Mathlib.Data.List.Induction
/-!
# Histories — what an overlay answers after any changes

Column metrics are added, spanning metrics are added and the uniqueness metric
is replaced, in any order. Changes of different kinds do not meet, so a history
is sorted by kind (`after_eq`), and each kind has a precedence of its own: of
column metrics at one place the last one shows, of spanning metrics with one
name the first one, and the reserved name means the uniqueness metric that was
set last (`addresses_after`).
-/

namespace DataQuality

namespace Overlay

/-! ## First and last -/

section Precedence

variable {α : Type} {p : α → Prop} {l : List α} {a : α}

/-- The item is the first of the list with the property. -/
def IsFirst (p : α → Prop) (l : List α) (a : α) : Prop :=
  ∃ before after, l = before ++ a :: after ∧ p a ∧ ∀ b ∈ before, ¬p b

/-- The item is the last of the list with the property. -/
def IsLast (p : α → Prop) (l : List α) (a : α) : Prop :=
  ∃ before after, l = before ++ a :: after ∧ p a ∧ ∀ b ∈ after, ¬p b

theorem find?_eq_some_iff_isFirst [DecidablePred p] :
    l.find? (fun b => decide (p b)) = some a ↔ IsFirst p l a := by
  rw [List.find?_eq_some_iff_append]
  constructor
  · rintro ⟨ha, before, after, hl, hbefore⟩
    exact ⟨before, after, hl, of_decide_eq_true ha, fun b hb => by simpa using hbefore b hb⟩
  · rintro ⟨before, after, hl, ha, hbefore⟩
    exact ⟨decide_eq_true ha, before, after, hl, fun b hb => by simpa using hbefore b hb⟩

/-- The last item is the first one from the other end. -/
theorem isFirst_reverse : IsFirst p l.reverse a ↔ IsLast p l a := by
  constructor
  · rintro ⟨before, after, hl, ha, hbefore⟩
    have hl' : l = after.reverse ++ a :: before.reverse := by
      rw [← List.reverse_reverse l, hl]
      simp
    exact ⟨after.reverse, before.reverse, hl', ha, fun b hb => hbefore b (List.mem_reverse.mp hb)⟩
  · rintro ⟨before, after, rfl, ha, hafter⟩
    have hafter' : ∀ b ∈ after.reverse, ¬p b := fun b hb => hafter b (List.mem_reverse.mp hb)
    exact ⟨after.reverse, before.reverse, by simp, ha, hafter'⟩

end Precedence

variable {o : Overlay} {c n : String} {m : ColumnMetric} {s : SpanningMetric}

/-! ## Addresses -/

/-- A column and a name are answered with the metric that is stored there. -/
theorem target_some (h : n ≠ uniquenessName) : o.target (some c) n =
    match o.columnMetric? c n with
    | some m => .ok (.column m)
    | none => .error (.metricNotFound n (some c)) := if_neg h

theorem target_some_eq_ok_iff (h : n ≠ uniquenessName) :
    o.target (some c) n = .ok (.column m) ↔ o.columnMetric? c n = some m := by
  rw [target_some h]
  cases o.columnMetric? c n with
  | none => simp
  | some m' => simp

theorem target_some_eq_error_iff (h : n ≠ uniquenessName) :
    o.target (some c) n = .error (.metricNotFound n (some c)) ↔ o.columnMetric? c n = none := by
  rw [target_some h]
  cases o.columnMetric? c n with
  | none => simp
  | some m' => simp

/-- A name without a column is answered with the first spanning metric that has it. -/
theorem target_none (h : n ≠ uniquenessName) : o.target none n =
    match o.spanning.find? (·.rule.name = n) with
    | some s => .ok (.spanning s)
    | none => .error (.metricNotFound n none) := if_neg h

theorem target_none_eq_ok_iff (h : n ≠ uniquenessName) :
    o.target none n = .ok (.spanning s) ↔ IsFirst (·.rule.name = n) o.spanning s := by
  rw [target_none h, ← find?_eq_some_iff_isFirst]
  cases o.spanning.find? (·.rule.name = n) with
  | none => simp
  | some s' => simp

theorem target_none_eq_error_iff (h : n ≠ uniquenessName) :
    o.target none n = .error (.metricNotFound n none) ↔ ∀ s ∈ o.spanning, s.rule.name ≠ n := by
  have hfind : o.spanning.find? (·.rule.name = n) = none ↔ ∀ s ∈ o.spanning, s.rule.name ≠ n := by
    simp
  rw [target_none h, ← hfind]
  cases o.spanning.find? (·.rule.name = n) with
  | none => simp
  | some s' => simp

/-! ## Columns with metrics -/

theorem mem_columnNames_iff : c ∈ o.columnNames ↔ (o.columns.get? c).isSome :=
  OrderedMap.mem_keys_iff

/-- A column metric brings its column and no other one. -/
theorem mem_columnNames_add : c ∈ (o.add m).columnNames ↔
    m.column.getD "" = c ∨ c ∈ o.columnNames := by
  rw [mem_columnNames_iff, mem_columnNames_iff, add, OrderedMap.get?_insert]
  by_cases hc : m.column.getD "" = c
  · rw [if_pos hc]
    exact ⟨fun _ => .inl hc, fun _ => rfl⟩
  · rw [if_neg hc]
    exact ⟨.inr, fun h => h.resolve_left hc⟩

theorem mem_columnNames_addAll (ms : List ColumnMetric) : c ∈ (o.addAll ms).columnNames ↔
    (∃ m ∈ ms, m.column.getD "" = c) ∨ c ∈ o.columnNames := by
  induction ms generalizing o with
  | nil => simp [addAll]
  | cons m rest ih =>
    have hrest : c ∈ (o.addAll (m :: rest)).columnNames ↔ _ := ih (o := o.add m)
    rw [hrest, mem_columnNames_add]
    simp only [List.mem_cons, exists_eq_or_imp]
    exact or_left_comm.trans or_assoc.symm

/-! ## Changes -/

/-- A change of what metrics there are. -/
inductive Change where
  | column (metric : ColumnMetric)
  | spanning (metric : SpanningMetric)
  | uniqueness (metric : SpanningMetric)

namespace Change

/-- The column metric that a change adds. -/
def column? : Change → Option ColumnMetric
  | column m => some m
  | _ => none

/-- The spanning metric that a change adds. -/
def spanning? : Change → Option SpanningMetric
  | spanning s => some s
  | _ => none

/-- The uniqueness metric that a change sets. -/
def uniqueness? : Change → Option SpanningMetric
  | uniqueness s => some s
  | _ => none

end Change

/-- The overlay after one change. -/
def changed (o : Overlay) : Change → Overlay
  | .column m => o.add m
  | .spanning s => o.addSpanning s
  | .uniqueness s => o.setUniqueness s

/-- The overlay after changes in order. -/
def after (o : Overlay) (changes : List Change) : Overlay := changes.foldl changed o

theorem after_concat (changes : List Change) (change : Change) :
    o.after (changes ++ [change]) = (o.after changes).changed change := by
  rw [after, List.foldl_append]
  rfl

/-- **A history is sorted by kind.** Column metrics are added as if there were
nothing else, spanning metrics are listed as they came, and the uniqueness metric
is the one that was set last. -/
theorem after_eq (o : Overlay) (changes : List Change) : o.after changes =
    { columns := (o.addAll (changes.filterMap Change.column?)).columns
      spanning := o.spanning ++ changes.filterMap Change.spanning?
      uniqueness := (changes.filterMap Change.uniqueness?).getLastD o.uniqueness } := by
  -- From the end of the history, since the last change is applied last.
  induction changes using List.reverseRecOn with
  | nil => simp [after, addAll]
  | append_singleton changes change ih =>
    rw [after_concat, ih, List.filterMap_append, List.filterMap_append, List.filterMap_append]
    cases change with
    | column m =>
      simp [changed, add, addAll, Change.column?, Change.spanning?, Change.uniqueness?,
        List.filterMap_cons]
    | spanning s =>
      simp [changed, addSpanning, Change.column?, Change.spanning?, Change.uniqueness?,
        List.filterMap_cons]
    | uniqueness s =>
      simp [changed, setUniqueness, Change.column?, Change.spanning?, Change.uniqueness?,
        List.filterMap_cons]

/-- **Each kind of metric has its own precedence.** Whatever was added and set in
whatever order, the reserved name means the uniqueness metric that was set last,
in every column; a column and another name mean the last column metric that was
added with both; a name without a column means the first spanning metric that was
added with it. Where there is none the address is not found. The columns are
listed in order, each once, and just those that a column metric was added to. -/
theorem addresses_after (first : SpanningMetric) (changes : List Change) :
    let o := (ofUniqueness first).after changes
    let columnMetrics := changes.filterMap Change.column?
    let spanningMetrics := changes.filterMap Change.spanning?
    (∀ column, o.target column uniquenessName =
        .ok (.spanning ((changes.filterMap Change.uniqueness?).getLastD first))) ∧
      (∀ c n, n ≠ uniquenessName →
        (∀ m, o.target (some c) n = .ok (.column m) ↔
          IsLast (·.place = .column c n) columnMetrics m) ∧
        (o.target (some c) n = .error (.metricNotFound n (some c)) ↔
          ∀ m ∈ columnMetrics, m.place ≠ .column c n)) ∧
      (∀ n, n ≠ uniquenessName →
        (∀ s, o.target none n = .ok (.spanning s) ↔
          IsFirst (·.rule.name = n) spanningMetrics s) ∧
        (o.target none n = .error (.metricNotFound n none) ↔
          ∀ s ∈ spanningMetrics, s.rule.name ≠ n)) ∧
      o.columnNames.Pairwise (· < ·) ∧
      ∀ c, c ∈ o.columnNames ↔ ∃ m ∈ columnMetrics, m.column.getD "" = c := by
  intro o columnMetrics spanningMetrics
  have ho : o = _ := after_eq (ofUniqueness first) changes
  have hcolumns : o.columns = ((ofUniqueness first).addAll columnMetrics).columns := by rw [ho]
  have hspanning : o.spanning = spanningMetrics := by
    rw [ho]
    exact List.nil_append _
  have hstored : ∀ c n, o.columnMetric? c n =
      columnMetrics.reverse.find? fun m => decide (m.place = .column c n) := by
    intro c n
    rw [columnMetric?, hcolumns]
    exact (columnMetric?_addAll columnMetrics).trans Option.or_none
  refine ⟨fun column => ?_, fun c n hn => ⟨fun m => ?_, ?_⟩, fun n hn => ⟨fun s => ?_, ?_⟩,
    o.columns.keys_ascending, fun c => ?_⟩
  · have huniqueness : o.uniqueness =
        (changes.filterMap Change.uniqueness?).getLastD first := by rw [ho]; rfl
    rw [← huniqueness]
    exact Means.uniqueness.target
  · rw [target_some_eq_ok_iff hn, hstored, find?_eq_some_iff_isFirst, isFirst_reverse]
  · rw [target_some_eq_error_iff hn, hstored]
    simp
  · rw [target_none_eq_ok_iff hn, hspanning]
  · rw [target_none_eq_error_iff hn, hspanning]
  · have hnames : c ∈ o.columnNames ↔
        c ∈ ((ofUniqueness first).addAll columnMetrics).columnNames := by
      rw [columnNames, columnNames, hcolumns]
    rw [hnames, mem_columnNames_addAll]
    exact or_iff_left List.not_mem_nil

end Overlay

end DataQuality
