import DataQuality.Proofs.Overlay.Listing
import DataQuality.Report.Basic
/-!
# Listing — the reports of an overlay

The reports of an overlay are those of its metrics, one for each, in the order of
their places (`Report.overlay_is_reported`). A report tells of its metric what it is
about, the checks as they are configured, and what the last complete pass found. So
another pass changes nothing in the reports but that (`Report.map_outline_pass`).
-/

namespace DataQuality

/-- The definition shows the check as it is configured. -/
structure CheckDefinition.Shows (d : CheckDefinition) (check : Check) : Prop where
  expression : d.expression = check.expression.source
  column : d.column = check.column
  disabled : d.disabled = check.disabled
  comment : d.comment = check.comment

theorem Check.shows_definition (check : Check) : check.definition.Shows check :=
  ⟨rfl, rfl, rfl, rfl⟩

/-- The column that a check keeps is not shown. -/
theorem Check.map_definition_of_unkept {checks checks' : List Check}
    (h : checks'.map Check.unkept = checks.map Check.unkept) :
    checks'.map Check.definition = checks.map Check.definition := by
  have hdefinition := congrArg (List.map Check.definition) h
  rwa [List.map_map, List.map_map] at hdefinition

namespace Report

variable {m : Metric} {time : Time.Instant}

/-- What the report says that it is about is the metric: its kind, its column or
columns, and the function of its call. -/
def IsAbout (r : Report) : Metric → Prop
  | .column m => r.kind = .column ∧ r.columns = m.column.toList ∧ r.function = none
  | .spanning m => r.kind = .spanning ∧ r.columns = m.columns ∧
      r.function = m.call.map (·.function)

/-- The report tells the rule: its names and checks, the measure, and the dirty rows in
ascending order and as many as are counted. -/
structure Tells (r : Report) (rule : Rule) : Prop where
  name : r.name = rule.name
  description : r.description = rule.description
  measure : r.measure = rule.measure
  dirtyRows_ascending : r.dirtyRows.Pairwise (· < ·)
  mem_dirtyRows_iff : ∀ index, index ∈ r.dirtyRows ↔ (rule.dirty.get? index).isSome
  dirtyRowCount : r.dirtyRowCount = r.dirtyRows.length
  checks : List.Forall₂ CheckDefinition.Shows r.checks rule.checks
  stats : r.stats = none

theorem isAbout_ofMetric (m : Metric) (time : Time.Instant) : (ofMetric m time).IsAbout m := by
  cases m with
  | column m => exact ⟨rfl, rfl, rfl⟩
  | spanning m => exact ⟨rfl, rfl, rfl⟩

theorem tells_ofRule (rule : Rule) (kind : MetricKind) (columns : List String)
    (function : Option String) (time : Time.Instant) :
    (ofRule rule kind columns function time).Tells rule where
  name := rfl
  description := rfl
  measure := rfl
  dirtyRows_ascending := rule.dirty.keys_ascending
  mem_dirtyRows_iff _ := OrderedMap.mem_keys_iff
  dirtyRowCount := (List.length_map _).symm
  checks := List.forall₂_map_left_iff.mpr (List.forall₂_same.mpr fun c _ => c.shows_definition)
  stats := rfl

theorem tells_ofMetric (m : Metric) (time : Time.Instant) : (ofMetric m time).Tells m.rule := by
  cases m with
  | column m => exact tells_ofRule m.rule ..
  | spanning m => exact tells_ofRule m.rule ..

/-! ## All reports -/

/-- The reports of an overlay are those of its metrics. -/
theorem ofOverlay_eq (o : Overlay) (time : Time.Instant) :
    ofOverlay o time = o.metrics.map (ofMetric · time) := by
  rw [ofOverlay, Overlay.metrics, List.map_append, List.map_flatMap, List.map_cons, List.map_map]
  simp only [List.map_map]
  rfl

/-- **Every metric is reported, and no other one.** The reports stand for the places
that hold a metric, each of them once: columns in order and in each of them names in
order, then uniqueness, then the spanning metrics by their index. Each report is about
the metric at its place and tells its rule. In every overlay that is reached, before
or after any passes, the column and the name of a place are those of the column metric
itself, and the spanning metrics stand as they were added. -/
theorem overlay_is_reported (o : Overlay) (time : Time.Instant) :
    o.places.Pairwise Place.Before ∧
      (∀ q, q ∈ o.places ↔ (o.at? q).isSome) ∧
      List.Forall₂ (fun q r => ∃ m, o.at? q = some m ∧ r.IsAbout m ∧ r.Tells m.rule)
        o.places (ofOverlay o time) ∧
      ∀ added, o.Reached added →
        (∀ c n m, o.at? (.column c n) = some (.column m) → m.place = .column c n) ∧
          o.spanning.map SpanningMetric.heading = added.map SpanningMetric.heading := by
  refine ⟨o.pairwise_places, fun q => Overlay.mem_places_iff, ?_, fun added h => ⟨?_, ?_⟩⟩
  · rw [ofOverlay_eq, List.forall₂_map_right_iff]
    exact o.forall₂_places_metrics.imp fun q m hm =>
      ⟨m, hm, isAbout_ofMetric m time, tells_ofMetric m time⟩
  · intro c n m hm
    exact h.orderly.filed c n m (Overlay.at?_column_eq_some_iff.mp hm)
  · exact h.orderly.headings

/-! ## Passes -/

/-- The report without what a pass publishes. -/
def outline (r : Report) : Report := { r with measure := none, dirtyRowCount := 0, dirtyRows := [] }

/-- The outlines are those of the metrics at the places. -/
theorem map_outline_ofOverlay (o : Overlay) (time : Time.Instant) :
    ((ofOverlay o time).map outline).map some =
      o.places.map fun q => (o.at? q).map fun m => (ofMetric m time).outline := by
  have h := congrArg (List.map (Option.map fun m => (ofMetric m time).outline)) o.map_at?_places
  rw [List.map_map, List.map_map] at h
  rw [ofOverlay_eq, List.map_map, List.map_map]
  exact h.symm

theorem outline_withRule {binder : Binder} {config : EvaluationConfig} {e : Evaluator}
    (h : Evaluator.SameSetup (Evaluator.ofMetric m binder config) e) :
    (ofMetric (m.withRule e.rule) time).outline = (ofMetric m time).outline := by
  have hname : e.rule.name = m.rule.name := h.name
  have hdescription : e.rule.description = m.rule.description := h.description
  have hchecks : e.rule.checks.map Check.definition = m.rule.checks.map Check.definition :=
    Check.map_definition_of_unkept h.checks
  cases m with
  | column m =>
    rw [Metric.rule] at hname hdescription hchecks
    simp only [Metric.withRule, ofMetric, ofColumn, ofRule, outline, hname, hdescription, hchecks]
  | spanning m =>
    rw [Metric.rule] at hname hdescription hchecks
    simp only [Metric.withRule, ofMetric, ofSpanning, ofRule, outline, hname, hdescription,
      hchecks]

/-- **A pass changes the findings in the reports and nothing else**, however it ends:
there are the same reports in the same order, and each of them is about what it was. -/
theorem map_outline_pass (o : Overlay) (project : Project) (column : Option String)
    (name : String) (tests : List RowTest) (binder : Binder) (config : EvaluationConfig)
    (time : Time.Instant) :
    (ofOverlay (o.evaluateOver project column name tests binder config).1 time).map outline =
      (ofOverlay o time).map outline := by
  rcases o.evaluateOver_cases project column name tests binder config with
    heq | ⟨place, m, e, hmeans, hsetup, heq⟩
  · rw [heq]
  · have hplaces : (o.putRule column name e.rule).places = o.places :=
      Overlay.places_congr hmeans.isSome_at?_putRule
    refine List.map_injective_iff.mpr (fun _ _ => Option.some.inj) ?_
    rw [heq, map_outline_ofOverlay, map_outline_ofOverlay, hplaces]
    refine List.map_congr_left fun q _ => ?_
    rw [hmeans.at?_putRule]
    split
    · rename_i hq
      rw [hq, hmeans.at?, Option.map_some, Option.map_some, outline_withRule hsetup]
    · rfl

end Report

end DataQuality
