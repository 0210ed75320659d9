import DataQuality.Proofs.Overlay.Histories
import DataQuality.Proofs.Pass.Origin
import Mathlib.Data.List.Forall2
/-!
# Listing — the metrics of an overlay in order

Column metrics are listed by column and by name, then comes uniqueness, and then the
spanning metrics as they were added (`Place.Before`). Every place that holds a metric
is listed, once and in that order (`mem_places_iff`, `pairwise_places`), and the
metrics of an overlay are those at its places (`forall₂_places_metrics`).

The order goes by the keys under which column metrics are stored, and by the index of
spanning ones. In an overlay that has been reached by additions, passes and changes of
checks the keys are the column and the name of the metric itself, and the index is that
of its addition (`Reached.orderly`): nothing that is written through an address changes
them.
-/

namespace DataQuality

/-! ## Order -/

/-- One place is listed before another one. -/
inductive Place.Before : Place → Place → Prop
  | columns {c c' n n' : String} : c < c' → Before (.column c n) (.column c' n')
  | names {c n n' : String} : n < n' → Before (.column c n) (.column c n')
  | column_uniqueness {c n : String} : Before (.column c n) .uniqueness
  | column_spanning {c n : String} {i : Nat} : Before (.column c n) (.spanning i)
  | uniqueness_spanning {i : Nat} : Before .uniqueness (.spanning i)
  | spanning {i j : Nat} : i < j → Before (.spanning i) (.spanning j)

theorem Place.Before.asymm {q q' : Place} (h : q.Before q') : ¬q'.Before q := by
  intro h'
  cases h with
  | columns hlt =>
    cases h' with
    | columns hgt => exact Std.lt_irrefl (Std.lt_trans hlt hgt)
    | names => exact Std.lt_irrefl hlt
  | names hlt =>
    cases h' with
    | columns hgt => exact Std.lt_irrefl hgt
    | names hgt => exact Std.lt_irrefl (Std.lt_trans hlt hgt)
  | column_uniqueness => cases h'
  | column_spanning => cases h'
  | uniqueness_spanning => cases h'
  | spanning hlt =>
    cases h' with
    | spanning hgt => omega

/-- What a spanning metric is known by: its name, its columns and its call. -/
def SpanningMetric.heading (s : SpanningMetric) : String × List String × Option SpanningCall :=
  (s.rule.name, s.columns, s.call)

namespace Overlay

variable {o o' : Overlay} {c n name : String} {column : Option String} {q : Place} {m : Metric}
variable {rule : Rule}

/-- The places in columns. -/
def columnPlaces (o : Overlay) : List Place :=
  o.columns.entries.flatMap fun e => e.2.keys.map (.column e.1)

/-- The places of the metrics of an overlay. -/
def places (o : Overlay) : List Place :=
  o.columnPlaces ++ .uniqueness :: (List.range o.spanning.length).map .spanning

theorem exists_of_mem_columnPlaces (h : q ∈ o.columnPlaces) : ∃ c n, q = .column c n := by
  rw [columnPlaces, List.mem_flatMap] at h
  obtain ⟨e, -, hq⟩ := h
  obtain ⟨n, -, rfl⟩ := List.mem_map.mp hq
  exact ⟨e.1, n, rfl⟩

theorem pairwise_columnPlaces (o : Overlay) : o.columnPlaces.Pairwise Place.Before := by
  refine List.pairwise_flatMap.mpr ⟨fun e _ => ?_, o.columns.ascending.imp ?_⟩
  · exact List.pairwise_map.mpr (e.2.keys_ascending.imp .names)
  · intro e e' hlt q hq q' hq'
    obtain ⟨n, -, rfl⟩ := List.mem_map.mp hq
    obtain ⟨n', -, rfl⟩ := List.mem_map.mp hq'
    exact .columns hlt

/-- **The places are listed in their order**, and so each of them once. -/
theorem pairwise_places (o : Overlay) : o.places.Pairwise Place.Before := by
  have hspanning : ((List.range o.spanning.length).map Place.spanning).Pairwise Place.Before :=
    List.pairwise_map.mpr (List.pairwise_lt_range.imp .spanning)
  rw [places, List.pairwise_append, List.pairwise_cons]
  refine ⟨o.pairwise_columnPlaces, ⟨fun q hq => ?_, hspanning⟩, fun q hq q' hq' => ?_⟩
  · obtain ⟨i, -, rfl⟩ := List.mem_map.mp hq
    exact .uniqueness_spanning
  · obtain ⟨c, n, rfl⟩ := exists_of_mem_columnPlaces hq
    rcases List.mem_cons.mp hq' with rfl | hq'
    · exact .column_uniqueness
    · obtain ⟨i, -, rfl⟩ := List.mem_map.mp hq'
      exact .column_spanning

theorem mem_columnPlaces_iff : .column c n ∈ o.columnPlaces ↔ (o.columnMetric? c n).isSome := by
  rw [columnPlaces, List.mem_flatMap, columnMetric?]
  constructor
  · rintro ⟨⟨c', named⟩, he, hq⟩
    obtain ⟨n', hn, hq⟩ := List.mem_map.mp hq
    obtain ⟨rfl, rfl⟩ := Place.column.inj hq
    rw [OrderedMap.mem_entries_iff.mp he, Option.bind_some]
    exact OrderedMap.mem_keys_iff.mp hn
  · intro h
    obtain ⟨m, hm⟩ := Option.isSome_iff_exists.mp h
    obtain ⟨named, hc, hn⟩ := Option.bind_eq_some_iff.mp hm
    have hkey : n ∈ named.keys := OrderedMap.mem_keys_iff.mpr (Option.isSome_of_eq_some hn)
    exact ⟨(c, named), OrderedMap.mem_entries_iff.mpr hc, List.mem_map.mpr ⟨n, hkey, rfl⟩⟩

/-- **A place is listed just when it holds a metric.** -/
theorem mem_places_iff : q ∈ o.places ↔ (o.at? q).isSome := by
  rw [places, List.mem_append, List.mem_cons, List.mem_map]
  cases q with
  | uniqueness => simp [at?]
  | spanning i =>
    have hcolumns : .spanning i ∉ o.columnPlaces := fun h => by
      obtain ⟨c, n, hq⟩ := exists_of_mem_columnPlaces h
      cases hq
    simp [at?, hcolumns]
  | column c n => simp [at?_column, mem_columnPlaces_iff]

/-- Metrics of whole rows come before those of columns, and spanning metrics that share
a name have places of their own. -/
example :
    let rule : Rule := ⟨"set", none, [], .all, OrderedMap.empty, none⟩
    let o := (empty.add ⟨rule, some "raised"⟩).addSpanning ⟨rule, [], none⟩
    ((o.add ⟨rule, none⟩).addSpanning ⟨rule, [], none⟩).places =
      [.column "" "set", .column "raised" "set", .uniqueness, .spanning 0, .spanning 1] := by
  decide

/-- Overlays with metrics at the same places list the same places. -/
theorem places_congr (h : ∀ q, (o'.at? q).isSome = (o.at? q).isSome) : o'.places = o.places := by
  have hnodup (o : Overlay) : o.places.Nodup := by
    refine o.pairwise_places.imp fun hbefore => ?_
    rintro rfl
    exact hbefore.asymm hbefore
  have hperm : o'.places.Perm o.places := by
    refine (List.perm_ext_iff_of_nodup (hnodup o') (hnodup o)).mpr fun q => ?_
    rw [mem_places_iff, mem_places_iff, h q]
  refine hperm.eq_of_pairwise (fun q q' _ _ hbefore hafter => ?_) o'.pairwise_places
    o.pairwise_places
  exact absurd hafter hbefore.asymm

/-! ## Metrics -/

/-- The metrics of an overlay in the order of their places. -/
def metrics (o : Overlay) : List Metric :=
  (o.columns.values.flatMap fun named => named.values.map .column) ++
    .spanning o.uniqueness :: o.spanning.map .spanning

theorem map_at?_columnPlaces (o : Overlay) : o.columnPlaces.map o.at? =
    (o.columns.values.flatMap fun named => named.values.map Metric.column).map some := by
  rw [columnPlaces, OrderedMap.values, List.map_flatMap, List.map_flatMap, List.flatMap_map]
  refine List.flatMap_congr fun e he => ?_
  rw [OrderedMap.keys, OrderedMap.values, List.map_map, List.map_map, List.map_map, List.map_map]
  refine List.map_congr_left fun x hx => ?_
  have hmetric : o.columnMetric? e.1 x.1 = some x.2 := by
    rw [columnMetric?, OrderedMap.mem_entries_iff.mp he, Option.bind_some]
    exact OrderedMap.mem_entries_iff.mp hx
  exact at?_column_eq_some_iff.mpr hmetric

/-- **The metrics are those at the places**, one at each. -/
theorem map_at?_places (o : Overlay) : o.places.map o.at? = o.metrics.map some := by
  have hspanning : ((List.range o.spanning.length).map Place.spanning).map o.at? =
      (o.spanning.map Metric.spanning).map some := by
    refine List.ext_getElem (by simp) fun i hi hi' => ?_
    rw [List.length_map, List.length_map, List.length_range] at hi
    simp [at?, hi]
  rw [places, metrics, List.map_append, List.map_append, map_at?_columnPlaces, List.map_cons,
    List.map_cons, hspanning]
  rfl

theorem forall₂_places_metrics (o : Overlay) :
    List.Forall₂ (fun q m => o.at? q = some m) o.places o.metrics := by
  have h : List.Forall₂ (· = ·) (o.places.map o.at?) (o.metrics.map some) := by
    rw [List.forall₂_eq_eq_eq]
    exact o.map_at?_places
  rwa [List.forall₂_map_left_iff, List.forall₂_map_right_iff] at h

/-! ## Passes -/

theorem exists_means_of_target (h : o.target column name = .ok m) :
    ∃ place, o.Means column name place m := by
  cases hplace : o.place? column name with
  | none =>
    rw [target_of_place?_eq_none hplace] at h
    cases h
  | some place =>
    obtain ⟨m', hmeans⟩ := means_of_place? hplace
    rw [hmeans.target] at h
    exact ⟨place, Except.ok.inj h ▸ hmeans⟩

/-- **What a pass leaves**, however it ends: the overlay as it was where nothing is
addressed, and else the metric with a rule of the same setup. -/
theorem evaluateOver_cases (o : Overlay) (project : Project) (column : Option String)
    (name : String) (tests : List RowTest) (binder : Binder) (config : EvaluationConfig) :
    (o.evaluateOver project column name tests binder config).1 = o ∨
      ∃ place m e, o.Means column name place m ∧
        Evaluator.SameSetup (Evaluator.ofMetric m binder config) e ∧
        (o.evaluateOver project column name tests binder config).1 =
          o.putRule column name e.rule := by
  rw [evaluateOver]
  cases htarget : o.target column name with
  | error fault => exact .inl rfl
  | ok m =>
    obtain ⟨place, hmeans⟩ := exists_means_of_target htarget
    obtain ⟨calls, hcalls⟩ := m.exists_session_evaluate project tests binder config
    have hsetup := Evaluator.after_sameSetup (Evaluator.ofMetric m binder config) calls
    refine .inr ⟨place, m, _, hmeans, hsetup, ?_⟩
    simp only [hcalls, Metric.rule_withRule]

/-! ## Order of addition -/

/-- The overlay holds metrics as they were added: each column metric stands under its
own column and name, and the spanning metrics stand in the order of `added`, whose
checks and findings may be others by now. -/
structure Orderly (o : Overlay) (added : List SpanningMetric) : Prop where
  filed : ∀ c n m, o.columnMetric? c n = some m → m.place = .column c n
  headings : o.spanning.map SpanningMetric.heading = added.map SpanningMetric.heading

variable {added : List SpanningMetric}

theorem orderly_ofUniqueness (s : SpanningMetric) : (ofUniqueness s).Orderly [] where
  filed _ _ _ hm := nomatch hm
  headings := rfl

namespace Orderly

/-- An added column metric stands where it should, and another change adds none. -/
theorem changed (h : o.Orderly added) (change : Change) :
    (o.changed change).Orderly (added ++ change.spanning?.toList) where
  filed c n m hm := by
    cases change with
    | column m' =>
      rw [Overlay.changed, columnMetric?_add] at hm
      split at hm
      · rename_i hplace
        rw [← Option.some.inj hm, hplace]
      · exact h.filed c n m hm
    | spanning s => exact h.filed c n m hm
    | uniqueness s => exact h.filed c n m hm
  headings := by
    have hspanning : (o.changed change).spanning = o.spanning ++ change.spanning?.toList := by
      cases change with
      | column m => exact (List.append_nil _).symm
      | spanning s => rfl
      | uniqueness s => exact (List.append_nil _).symm
    rw [hspanning, List.map_append, List.map_append, h.headings]

/-- A rule that keeps the name leaves the metric where it is. -/
theorem putRule (h : o.Orderly added) (hmeans : o.Means column name q m)
    (hname : rule.name = m.rule.name) : (o.putRule column name rule).Orderly added where
  filed c n m' hm' := by
    rw [← at?_column_eq_some_iff, hmeans.at?_putRule] at hm'
    split at hm'
    · rename_i hq
      cases m with
      | spanning s => cases hm'
      | column old =>
        obtain rfl := Metric.column.inj (Option.some.inj hm')
        have hold : old.place = .column c n :=
          h.filed c n old (at?_column_eq_some_iff.mp (hq ▸ hmeans.at?))
        rw [← hold, ColumnMetric.place, ColumnMetric.place, hname]
        rfl
    · exact h.filed c n m' (at?_column_eq_some_iff.mp hm')
  headings := by
    rw [← h.headings]
    cases hmeans with
    | uniqueness => rw [putRule_uniqueness]
    | column hne hc hn => rw [putRule_some hne hc hn]
    | @spanning _ i s hne _ _ hs =>
      rw [putRule_none hne]
      refine map_putFirst fun s' hs' => ?_
      rw [SpanningMetric.heading, SpanningMetric.heading, hname, hs']
      exact congrArg (·, s'.columns, s'.call) hs

end Orderly

/-- The overlays that are reached from a fresh one, and the spanning metrics that were
added on the way: metrics are added and replaced, passes are run, and checks are
switched or added. -/
inductive Reached : Overlay → List SpanningMetric → Prop
  | fresh (uniqueness : SpanningMetric) : Reached (ofUniqueness uniqueness) []
  | changed {o : Overlay} {added : List SpanningMetric} (h : Reached o added) (change : Change) :
    Reached (o.changed change) (added ++ change.spanning?.toList)
  | passed {o : Overlay} {added : List SpanningMetric} (h : Reached o added) (project : Project)
      (column : Option String) (name : String) (tests : List RowTest) (binder : Binder)
      (config : EvaluationConfig) :
    Reached (o.evaluateOver project column name tests binder config).1 added
  | edited {o : Overlay} {added : List SpanningMetric} (h : Reached o added)
      {column : Option String} {name : String} {m : Metric}
      (htarget : o.target column name = .ok m) {rule : Rule} (hname : rule.name = m.rule.name) :
    Reached (o.putRule column name rule) added

/-- **What is reached is orderly.** No step files a metric under another column or name,
or changes the order of the spanning metrics. -/
theorem Reached.orderly (h : o.Reached added) : o.Orderly added := by
  induction h with
  | fresh uniqueness => exact orderly_ofUniqueness uniqueness
  | changed _ change ih => exact ih.changed change
  | @passed o _ _ project column name tests binder config ih =>
    rcases o.evaluateOver_cases project column name tests binder config with
      heq | ⟨place, m, e, hmeans, hsetup, heq⟩
    · rwa [heq]
    · rw [heq]
      exact ih.putRule hmeans hsetup.name
  | edited _ htarget hname ih =>
    obtain ⟨place, hmeans⟩ := exists_means_of_target htarget
    exact ih.putRule hmeans hname

end Overlay

end DataQuality
