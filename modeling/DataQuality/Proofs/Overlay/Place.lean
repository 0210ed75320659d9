import DataQuality.Overlay
import DataQuality.Proofs.OrderedMap
/-!
# Places — where the metrics of an overlay stand

Several addresses may mean one metric: the reserved name wins over every
column, and spanning metrics may share a name. So an address is first made
a place (`place?`), and two places are two metrics. A write through an
address is a write at its place and nowhere else (`at?_putRule`), and the
overlay is no more than its places and its columns (`ext_at?`).
-/

namespace DataQuality

/-- Where a metric stands in an overlay. -/
inductive Place where
  | uniqueness
  | spanning (index : Nat)
  | column (column name : String)
  deriving DecidableEq

namespace Overlay

variable {o o' : Overlay} {column : Option String} {name c n : String} {place : Place}
variable {rule : Rule} {l : List SpanningMetric} {i j : Nat}

/-- The metric at a place, if there is one. -/
def at? (o : Overlay) : Place → Option Metric
  | .uniqueness => some (.spanning o.uniqueness)
  | .spanning i => o.spanning[i]?.map .spanning
  | .column c n => ((o.columns.get? c).bind (·.get? n)).map .column

/-- The place of the metric that a column and a name address, if there is
one. -/
def place? (o : Overlay) (column : Option String) (name : String) : Option Place :=
  if name = uniquenessName then some .uniqueness
  else
    match column with
    | none => (o.spanning.findIdx? (·.rule.name == name)).map .spanning
    | some c => if (o.at? (.column c name)).isSome then some (.column c name) else none

/-- **An overlay is its columns and the metrics at its places.** -/
theorem ext_at? (hnames : o'.columnNames = o.columnNames)
    (h : ∀ place, o'.at? place = o.at? place) : o' = o := by
  have huniqueness : o'.uniqueness = o.uniqueness :=
    Metric.spanning.inj (Option.some.inj (h .uniqueness))
  have hspanning : o'.spanning = o.spanning := by
    refine List.ext_getElem? fun i => ?_
    exact Option.map_injective (fun _ _ => Metric.spanning.inj) (h (.spanning i))
  have hcolumns : o'.columns = o.columns := by
    refine OrderedMap.ext_get? fun c => ?_
    -- A column without metrics is known by its name alone.
    have hkey : (o'.columns.get? c).isSome = (o.columns.get? c).isSome := by
      rw [Bool.eq_iff_iff, ← OrderedMap.mem_keys_iff, ← OrderedMap.mem_keys_iff]
      rw [columnNames, columnNames] at hnames
      rw [hnames]
    cases hc' : o'.columns.get? c with
    | none =>
      rw [hc'] at hkey
      exact (Option.isSome_eq_false_iff.mp hkey.symm |> Option.isNone_iff_eq_none.mp).symm
    | some named' =>
      rw [hc'] at hkey
      obtain ⟨named, hc⟩ := Option.isSome_iff_exists.mp hkey.symm
      rw [hc]
      refine congrArg some (OrderedMap.ext_get? fun n => ?_)
      have hn := h (.column c n)
      rw [at?, at?, hc', hc] at hn
      exact Option.map_injective (fun _ _ => Metric.column.inj) hn
  cases o
  cases o'
  rw [Overlay.mk.injEq]
  exact ⟨hcolumns, huniqueness, hspanning⟩

/-! ## Addresses -/

theorem place?_uniqueness : o.place? column uniquenessName = some .uniqueness := if_pos rfl

theorem place?_none (h : name ≠ uniquenessName) :
    o.place? none name = (o.spanning.findIdx? (·.rule.name == name)).map .spanning := if_neg h

theorem place?_some (h : name ≠ uniquenessName) : o.place? (some c) name =
    if (o.at? (.column c name)).isSome then some (.column c name) else none := if_neg h

/-- What an address means: the place and the metric there, case by case. -/
inductive Means (o : Overlay) : Option String → String → Place → Metric → Prop
  /-- The reserved name means one metric, whatever the column is. -/
  | uniqueness {column : Option String} :
      Means o column uniquenessName .uniqueness (.spanning o.uniqueness)
  /-- Without a column a name means the first spanning metric that has it. -/
  | spanning {name : String} {i : Nat} {m : SpanningMetric} : name ≠ uniquenessName →
      o.spanning.findIdx? (·.rule.name == name) = some i → o.spanning[i]? = some m →
      m.rule.name = name → Means o none name (.spanning i) (.spanning m)
  /-- A column and a name mean the metric that is stored under both. -/
  | column {c name : String} {named : OrderedMap String ColumnMetric} {m : ColumnMetric} :
      name ≠ uniquenessName → o.columns.get? c = some named → named.get? name = some m →
      Means o (some c) name (.column c name) (.column m)

/-- **An address that has a place means the metric there.** -/
theorem means_of_place? (h : o.place? column name = some place) :
    ∃ m, o.Means column name place m := by
  by_cases hname : name = uniquenessName
  · subst hname
    rw [place?_uniqueness] at h
    cases h
    exact ⟨_, .uniqueness⟩
  · cases column with
    | none =>
      rw [place?_none hname] at h
      obtain ⟨i, hi, rfl⟩ := Option.map_eq_some_iff.mp h
      obtain ⟨hlt, hm, -⟩ := List.findIdx?_eq_some_iff_getElem.mp hi
      exact ⟨_, .spanning hname hi (List.getElem?_eq_getElem hlt) (beq_iff_eq.mp hm)⟩
    | some c =>
      rw [place?_some hname] at h
      split at h
      · rename_i hsome
        cases h
        obtain ⟨m, hm⟩ := Option.isSome_iff_exists.mp hsome
        obtain ⟨m', hm', rfl⟩ := Option.map_eq_some_iff.mp hm
        obtain ⟨named, hc, hn⟩ := Option.bind_eq_some_iff.mp hm'
        exact ⟨_, .column hname hc hn⟩
      · cases h

theorem Means.place? {m : Metric} (h : o.Means column name place m) :
    o.place? column name = some place := by
  cases h with
  | uniqueness => exact place?_uniqueness
  | spanning hname hi => rw [place?_none hname, hi, Option.map_some]
  | column hname hc hn =>
    rw [place?_some hname, Overlay.at?, hc, Option.bind_some, hn]
    rfl

theorem Means.at? {m : Metric} (h : o.Means column name place m) : o.at? place = some m := by
  cases h with
  | uniqueness => rfl
  | spanning _ _ hm => rw [Overlay.at?, hm, Option.map_some]
  | column _ hc hn => rw [Overlay.at?, hc, Option.bind_some, hn, Option.map_some]

theorem Means.target {m : Metric} (h : o.Means column name place m) :
    o.target column name = .ok m := by
  cases h with
  | uniqueness => exact if_pos rfl
  | spanning hname hi hm =>
    have hfind : o.spanning.find? (·.rule.name == name) = _ :=
      List.find?_eq_bind_findIdx?_getElem?
    rw [hi, Option.bind_some, hm] at hfind
    rw [Overlay.target, if_neg hname]
    simp only [hfind]
  | column hname hc hn =>
    rw [Overlay.target, if_neg hname]
    simp only [hc, Option.bind_some, hn]

/-- An address without a place is answered with a fault. -/
theorem target_of_place?_eq_none (h : o.place? column name = none) :
    o.target column name = .error (.metricNotFound name column) := by
  by_cases hname : name = uniquenessName
  · subst hname
    cases h
  · cases column with
    | none =>
      rw [place?_none hname, Option.map_eq_none_iff] at h
      have hfind : o.spanning.find? (·.rule.name == name) = _ :=
        List.find?_eq_bind_findIdx?_getElem?
      rw [h, Option.bind_none] at hfind
      rw [target, if_neg hname]
      simp only [hfind]
    | some c =>
      rw [place?_some hname, ite_eq_right_iff] at h
      have hnone : (o.columns.get? c).bind (·.get? name) = none := by
        cases hm : (o.columns.get? c).bind (·.get? name) with
        | none => rfl
        | some m =>
          have hsome : (o.at? (.column c name)).isSome := by
            rw [at?, hm]
            rfl
          cases h hsome
      rw [target, if_neg hname]
      simp only [hnone]

/-! ## Writes through an address -/

theorem putRule_uniqueness : o.putRule column uniquenessName rule =
    { o with uniqueness := { o.uniqueness with rule } } := if_pos rfl

theorem putRule_none (h : name ≠ uniquenessName) : o.putRule none name rule =
    { o with spanning := putFirst name rule o.spanning } := if_neg h

theorem putRule_some {named : OrderedMap String ColumnMetric} {m : ColumnMetric}
    (h : name ≠ uniquenessName) (hc : o.columns.get? c = some named)
    (hn : named.get? name = some m) : o.putRule (some c) name rule =
      { o with columns := o.columns.insert c (named.insert name { m with rule }) } := by
  rw [putRule, if_neg h]
  simp only [hc, hn]

/-- A write of a spanning rule keeps the other metrics. -/
theorem getElem?_putFirst (h : l.findIdx? (·.rule.name == name) = some i) :
    (putFirst name rule l)[j]? =
      if j = i then l[i]?.map fun m => { m with rule } else l[j]? := by
  induction l generalizing i j with
  | nil => cases h
  | cons m rest ih =>
    rw [putFirst]
    rw [List.findIdx?_cons] at h
    split
    · rename_i hm
      rw [beq_iff_eq.mpr hm] at h
      cases h
      cases j <;> rfl
    · rename_i hm
      rw [beq_eq_false_iff_ne.mpr hm] at h
      obtain ⟨k, hk, rfl⟩ := Option.map_eq_some_iff.mp h
      cases j with
      | zero => rfl
      | succ j => simpa using ih hk

/-- A write of a spanning rule keeps whatever it keeps of the metric that it changes. -/
theorem map_putFirst {β : Type} {f : SpanningMetric → β}
    (h : ∀ m, m.rule.name = name → f { m with rule } = f m) :
    (putFirst name rule l).map f = l.map f := by
  induction l with
  | nil => rfl
  | cons m rest ih =>
    rw [putFirst]
    split
    · rename_i hm
      rw [List.map_cons, List.map_cons, h m hm]
    · rw [List.map_cons, List.map_cons, ih]

/-- **A write through an address is one at its place** and nowhere else. -/
theorem Means.at?_putRule {m : Metric} (h : o.Means column name place m) (q : Place) :
    (o.putRule column name rule).at? q = if q = place then some (m.withRule rule) else o.at? q := by
  cases h with
  | uniqueness =>
    rw [putRule_uniqueness]
    cases q <;> rfl
  | @spanning _ i m hname hi hm =>
    rw [putRule_none hname]
    cases q with
    | uniqueness => rfl
    | column c n => rfl
    | spanning j =>
      rw [Overlay.at?, getElem?_putFirst hi, hm]
      by_cases hj : j = i
      · rw [if_pos hj, if_pos (congrArg Place.spanning hj)]
        rfl
      · rw [if_neg hj, if_neg (hj <| Place.spanning.inj ·)]
        rfl
  -- Two writes are nested here: one of the name and one of the column.
  | @column c _ named m hname hc hn =>
    rw [putRule_some hname hc hn]
    cases q with
    | uniqueness => rfl
    | spanning j => rfl
    | column c' n' =>
      rw [Overlay.at?, OrderedMap.get?_insert]
      by_cases hc' : c = c'
      · subst hc'
        rw [if_pos rfl, Option.bind_some, OrderedMap.get?_insert]
        by_cases hn' : name = n'
        · subst hn'
          rw [if_pos rfl, if_pos rfl]
          rfl
        · rw [if_neg hn', if_neg fun hq => hn' (Place.column.inj hq).2.symm, Overlay.at?, hc,
            Option.bind_some]
      · rw [if_neg hc', if_neg fun hq => hc' (Place.column.inj hq).1.symm]
        rfl

/-- A write through an address leaves the same places with a metric. -/
theorem Means.isSome_at?_putRule {m : Metric} (h : o.Means column name place m) (q : Place) :
    ((o.putRule column name rule).at? q).isSome = (o.at? q).isSome := by
  rw [h.at?_putRule]
  split
  · rename_i hq
    rw [hq, h.at?]
    rfl
  · rfl

/-- A write through an address adds no column and drops none. -/
theorem Means.columnNames_putRule {m : Metric} (h : o.Means column name place m) :
    (o.putRule column name rule).columnNames = o.columnNames := by
  cases h with
  | uniqueness =>
    rw [putRule_uniqueness]
    rfl
  | spanning hname =>
    rw [putRule_none hname]
    rfl
  | column hname hc hn =>
    rw [putRule_some hname hc hn]
    exact OrderedMap.keys_insert_of_isSome (by rw [hc]; rfl)

/-- Addresses go by the names of spanning metrics and by what is stored in
columns. -/
theorem place?_congr (hnames : o'.spanning.map (·.rule.name) = o.spanning.map (·.rule.name))
    (hcolumns : ∀ c n, (o'.at? (.column c n)).isSome = (o.at? (.column c n)).isSome)
    (column : Option String) (name : String) : o'.place? column name = o.place? column name := by
  by_cases hname : name = uniquenessName
  · subst hname
    rw [place?_uniqueness, place?_uniqueness]
  · cases column with
    | none =>
      have hindex := congrArg (List.findIdx? (· == name)) hnames
      rw [List.findIdx?_map, List.findIdx?_map] at hindex
      rw [place?_none hname, place?_none hname]
      exact congrArg (Option.map Place.spanning) hindex
    | some c => rw [place?_some hname, place?_some hname, hcolumns]

/-- A write of a rule with the same name moves no metric. -/
theorem Means.place?_putRule {m : Metric} (h : o.Means column name place m)
    (hname : rule.name = m.rule.name) (column' : Option String) (name' : String) :
    (o.putRule column name rule).place? column' name' = o.place? column' name' := by
  refine place?_congr ?_ ?_ column' name'
  · cases h with
    | uniqueness => rw [putRule_uniqueness]
    | spanning hne _ _ hm =>
      rw [putRule_none hne]
      exact map_putFirst fun s hs => (hname.trans hm).trans hs.symm
    | column hne hc hn => rw [putRule_some hne hc hn]
  · intro c n
    exact h.isSome_at?_putRule (.column c n)

end Overlay

end DataQuality
