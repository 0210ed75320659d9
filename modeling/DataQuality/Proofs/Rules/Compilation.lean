import DataQuality.CheckLanguage
import DataQuality.Proofs.Function.Invocation
import DataQuality.Proofs.Overlay.Building
import DataQuality.Proofs.Rules.Description
import DataQuality.Proofs.Rules.Validity
/-!
# Compiled documents — which definitions an overlay holds

Column metrics are compiled one after another, and each is added at its
place. So the last definition with a place is the one that is stored there
(`Describes`), and an earlier one with the same place is gone. A valid
document tells its column metrics apart by name and column, but a missing
column and the column with the empty name are one place: only definitions
that differ in this alone take each other's place (`Folds`).

Spanning metrics are evaluated in the context of their first column. The listed
ones have one, and the uniqueness metric has one only if its definition does
(`contexts_of_compile`).
-/

namespace DataQuality

/-- Where the metric of a definition is stored. -/
def MetricDefinition.place (d : MetricDefinition) : Place := .column (d.column.getD "") d.name

theorem MetricDefinition.Describes.place_eq {compiler : Compiler} {d : MetricDefinition}
    {m : ColumnMetric} (h : d.Describes compiler m) : m.place = d.place := by
  rw [ColumnMetric.place, h.column, h.rule.name, MetricDefinition.place]

namespace Rules

variable {compiler : Compiler} {registry : Registry} {r : Rules} {o o' : Overlay}

/-- The definition of the uniqueness metric: the one of the document, under
the reserved name, or one without columns and checks. -/
def uniquenessDefinition (r : Rules) : SpanningDefinition :=
  match r.uniqueness with
  | none => ⟨Overlay.uniquenessName, [], none, none, .all, []⟩
  | some d => { d with name := Overlay.uniquenessName }

/-- The last definition whose metric is stored at a place. -/
def lastAt? (r : Rules) (place : Place) : Option MetricDefinition :=
  r.metrics.reverse.find? (·.place = place)

/-- The overlay that a document describes: at every column and name the
metric of the last definition for it and no metric if there is none, the
spanning metrics in the order of their definitions, and the uniqueness
metric. -/
structure Describes (compiler : Compiler) (registry : Registry) (r : Rules) (o : Overlay) :
    Prop where
  columns : ∀ c n, Option.Rel (MetricDefinition.Describes compiler) (r.lastAt? (.column c n))
    (o.columnMetric? c n)
  spanning : List.Forall₂ (SpanningDefinition.Describes compiler registry) r.spanning o.spanning
  uniqueness : r.uniquenessDefinition.Describes compiler registry o.uniqueness

/-- All source texts and all calls of a document have meanings. -/
structure Compiles (compiler : Compiler) (registry : Registry) (r : Rules) : Prop where
  metrics : ∀ d ∈ r.metrics, d.Compiles compiler
  spanning : ∀ d ∈ r.spanning, d.Compiles compiler registry
  uniqueness : r.uniquenessDefinition.Compiles compiler registry

/-- Two column metrics are of one name, and one has no column where the
other one has the column with the empty name. -/
def Folds (r : Rules) : Prop :=
  ∃ d ∈ r.metrics, ∃ e ∈ r.metrics, d.name = e.name ∧ d.column = none ∧ e.column = some ""

/-! ## The three parts -/

theorem startOverlay_eq_ok_iff : r.startOverlay compiler registry = .ok o ↔
    ∃ m, r.uniquenessDefinition.Describes compiler registry m ∧ o = Overlay.ofUniqueness m := by
  have hcompile : ∀ m, r.uniquenessDefinition.compile compiler registry = .ok m ↔
      r.uniquenessDefinition.Describes compiler registry m :=
    fun m => SpanningDefinition.compileIn_eq_ok_iff
  simp only [← hcompile]
  rw [startOverlay, uniquenessDefinition]
  cases r.uniqueness with
  | none =>
    constructor
    · intro h
      cases h
      exact ⟨_, rfl, rfl⟩
    · rintro ⟨m, hm, rfl⟩
      cases hm
      rfl
  | some d =>
    dsimp only
    cases { d with name := Overlay.uniquenessName }.compile compiler registry with
    | error fault => exact ⟨nofun, fun ⟨_, hm, _⟩ => nomatch hm⟩
    | ok m =>
      constructor
      · intro h
        cases h
        exact ⟨m, rfl, rfl⟩
      · rintro ⟨m', hm, rfl⟩
        cases hm
        rfl

/-- Column metrics are compiled and added one by one. -/
theorem addMetrics_eq_ok_iff {ds : List MetricDefinition} :
    addMetrics compiler ds o = .ok o' ↔
      ∃ ms, List.Forall₂ (MetricDefinition.Describes compiler) ds ms ∧ o' = o.addAll ms := by
  -- The overlay that the rest starts from is the one with the first metric.
  induction ds generalizing o with
  | nil =>
    constructor
    · intro h
      cases h
      exact ⟨[], .nil, rfl⟩
    · rintro ⟨ms, hms, rfl⟩
      cases hms
      rfl
  | cons d rest ih =>
    rw [addMetrics]
    constructor
    · intro h
      cases hm : d.compile compiler with
      | error fault =>
        rw [hm] at h
        cases h
      | ok m =>
        rw [hm] at h
        obtain ⟨ms, hms, ho⟩ := ih.mp h
        exact ⟨m :: ms, .cons (MetricDefinition.compileIn_eq_ok_iff.mp hm) hms, ho⟩
    · rintro ⟨ms, hms, rfl⟩
      obtain ⟨m, rest', hm, hrest, rfl⟩ := List.forall₂_cons_left_iff.mp hms
      have hcompile : d.compile compiler = .ok m := MetricDefinition.compileIn_eq_ok_iff.mpr hm
      rw [hcompile]
      exact ih.mpr ⟨rest', hrest, rfl⟩

/-- Spanning metrics are compiled and added one by one. -/
theorem addSpanning_eq_ok_iff {ds : List SpanningDefinition} :
    addSpanning compiler registry ds o = .ok o' ↔
      ∃ ms, List.Forall₂ (SpanningDefinition.Describes compiler registry) ds ms ∧
        o' = o.addAllSpanning ms := by
  induction ds generalizing o with
  | nil =>
    constructor
    · intro h
      cases h
      exact ⟨[], .nil, rfl⟩
    · rintro ⟨ms, hms, rfl⟩
      cases hms
      rfl
  | cons d rest ih =>
    rw [addSpanning]
    constructor
    · intro h
      cases hm : d.compile compiler registry with
      | error fault =>
        rw [hm] at h
        cases h
      | ok m =>
        rw [hm] at h
        obtain ⟨ms, hms, ho⟩ := ih.mp h
        exact ⟨m :: ms, .cons (SpanningDefinition.compileIn_eq_ok_iff.mp hm) hms, ho⟩
    · rintro ⟨ms, hms, rfl⟩
      obtain ⟨m, rest', hm, hrest, rfl⟩ := List.forall₂_cons_left_iff.mp hms
      have hcompile : d.compile compiler registry = .ok m :=
        SpanningDefinition.compileIn_eq_ok_iff.mpr hm
      rw [hcompile]
      exact ih.mpr ⟨rest', hrest, rfl⟩

/-! ## Whole documents -/

/-- **A document is compiled part by part**: its metrics are what their
definitions describe, added to the overlay of the uniqueness metric. -/
theorem compile_eq_ok_iff : r.compile compiler registry = .ok o ↔
    r.Valid ∧ ∃ u ms ss, r.uniquenessDefinition.Describes compiler registry u ∧
      List.Forall₂ (MetricDefinition.Describes compiler) r.metrics ms ∧
      List.Forall₂ (SpanningDefinition.Describes compiler registry) r.spanning ss ∧
      o = ((Overlay.ofUniqueness u).addAll ms).addAllSpanning ss := by
  rw [← validate_eq_ok_iff, compile]
  constructor
  -- Each stage must have ended well, or its fault would be the answer.
  · intro h
    cases hvalid : r.validate with
    | error fault =>
      rw [hvalid] at h
      cases h
    | ok accepted =>
      cases hstart : r.startOverlay compiler registry with
      | error fault =>
        rw [hvalid, hstart] at h
        cases h
      | ok start =>
        cases hmetrics : addMetrics compiler r.metrics start with
        | error fault =>
          rw [hvalid, hstart] at h
          dsimp only at h
          rw [hmetrics] at h
          cases h
        | ok added =>
          rw [hvalid, hstart] at h
          dsimp only at h
          rw [hmetrics] at h
          obtain ⟨u, hu, rfl⟩ := startOverlay_eq_ok_iff.mp hstart
          obtain ⟨ms, hms, rfl⟩ := addMetrics_eq_ok_iff.mp hmetrics
          obtain ⟨ss, hss, rfl⟩ := addSpanning_eq_ok_iff.mp h
          exact ⟨rfl, u, ms, ss, hu, hms, hss, rfl⟩
  · rintro ⟨hvalid, u, ms, ss, hu, hms, hss, rfl⟩
    rw [hvalid, startOverlay_eq_ok_iff.mpr ⟨u, hu, rfl⟩]
    dsimp only
    rw [addMetrics_eq_ok_iff.mpr ⟨ms, hms, rfl⟩]
    exact addSpanning_eq_ok_iff.mpr ⟨ss, hss, rfl⟩

/-- A valid document whose texts have meanings is compiled. -/
theorem Compiles.exists_compile (hvalid : r.Valid) (h : r.Compiles compiler registry) :
    ∃ o, r.compile compiler registry = .ok o := by
  obtain ⟨u, hu⟩ := h.uniqueness.exists_describes
  obtain ⟨ms, hms⟩ := exists_forall₂ fun d hd => (h.metrics d hd).exists_describes
  obtain ⟨ss, hss⟩ := exists_forall₂ fun d hd => (h.spanning d hd).exists_describes
  exact ⟨_, compile_eq_ok_iff.mpr ⟨hvalid, u, ms, ss, hu, hms, hss, rfl⟩⟩

/-- The metric found first is that of the definition found first. -/
theorem find?_rel {ds : List MetricDefinition} {ms : List ColumnMetric} (place : Place)
    (h : List.Forall₂ (MetricDefinition.Describes compiler) ds ms) :
    Option.Rel (MetricDefinition.Describes compiler) (ds.find? (·.place = place))
      (ms.find? (·.place = place)) := by
  induction h with
  | nil => exact .none
  | @cons d m ds ms hm hrest ih =>
    rw [List.find?_cons, List.find?_cons, hm.place_eq]
    cases decide (d.place = place) with
    | true => exact .some hm
    | false => exact ih

/-- **The overlay of a document is the one it describes.** -/
theorem describes_of_compile (h : r.compile compiler registry = .ok o) :
    r.Describes compiler registry o := by
  obtain ⟨-, u, ms, ss, hu, hms, hss, rfl⟩ := compile_eq_ok_iff.mp h
  refine ⟨fun c n => ?_, ?_, ?_⟩
  -- The last addition is the first one from the end, on both sides.
  · rw [Overlay.columnMetric?_addAllSpanning, Overlay.columnMetric?_addAll,
      Overlay.columnMetric?_ofUniqueness, Option.or_none]
    exact find?_rel _ (List.forall₂_reverse_iff.mpr hms)
  · rw [Overlay.spanning_addAllSpanning, Overlay.spanning_addAll]
    exact hss
  · rw [Overlay.uniqueness_addAllSpanning, Overlay.uniqueness_addAll]
    exact hu

/-! ## Definitions that are stored and definitions that are lost -/

variable {d : MetricDefinition} {m : ColumnMetric} {c n : String}

/-- A stored metric has a definition, which names its place. -/
theorem Describes.exists_definition (h : r.Describes compiler registry o)
    (hm : o.columnMetric? c n = some m) :
    ∃ d ∈ r.metrics, d.place = .column c n ∧ d.Describes compiler m := by
  have hrel := h.columns c n
  rw [hm] at hrel
  generalize hlast : r.lastAt? (.column c n) = last at hrel
  cases hrel with
  | @some d _ hdescribes =>
    rw [lastAt?] at hlast
    have hmem : d ∈ r.metrics.reverse := List.mem_of_find?_eq_some hlast
    have hplace := List.find?_some hlast
    exact ⟨d, List.mem_reverse.mp hmem, of_decide_eq_true hplace, hdescribes⟩

/-- A metric is stored under its own column and name. -/
theorem Describes.place_eq (h : r.Describes compiler registry o)
    (hm : o.columnMetric? c n = some m) : m.place = .column c n := by
  obtain ⟨d, -, hplace, hdescribes⟩ := h.exists_definition hm
  rw [hdescribes.place_eq, hplace]

/-- A stored metric stands at the place of whatever definition describes it. -/
theorem Describes.at?_of_describes (h : r.Describes compiler registry o)
    (hm : o.columnMetric? c n = some m) (hd : d.Describes compiler m) :
    o.at? d.place = some (.column m) := by
  rw [← hd.place_eq, h.place_eq hm]
  exact Overlay.at?_column_eq_some_iff.mpr hm

/-- At the place of a definition there is a metric, of that definition or of
a later one. -/
theorem Describes.exists_stored (h : r.Describes compiler registry o)
    (hd : d ∈ r.metrics) : ∃ m, o.columnMetric? (d.column.getD "") d.name = some m := by
  have hrel := h.columns (d.column.getD "") d.name
  generalize hstored : o.columnMetric? (d.column.getD "") d.name = stored at hrel
  generalize hlast : r.lastAt? (.column (d.column.getD "") d.name) = last at hrel
  cases hrel with
  | @some _ m => exact ⟨m, rfl⟩
  | none =>
    rw [lastAt?, List.find?_eq_none] at hlast
    exact absurd (decide_eq_true rfl) (hlast d (List.mem_reverse.mpr hd))

/-- Where nothing folds, the column metrics of a valid document have places
of their own. -/
theorem Valid.nodup_places (hvalid : r.Valid) (h : ¬r.Folds) :
    (r.metrics.map MetricDefinition.place).Nodup := by
  refine List.Nodup.map_on ?_ (List.Nodup.of_map _ hvalid.distinct)
  intro d hd e he hplace
  obtain ⟨hcolumn, hname⟩ := Place.column.inj hplace
  refine List.inj_on_of_nodup_map hvalid.distinct hd he ?_
  -- Equal places leave the columns one way to differ, which is excluded.
  have hsame : d.column = e.column := by
    cases hdc : d.column with
    | none =>
      cases hec : e.column with
      | none => rfl
      | some c =>
        rw [hdc, hec] at hcolumn
        have hempty : c = "" := hcolumn.symm
        exact absurd ⟨d, hd, e, he, hname, hdc, hempty ▸ hec⟩ h
    | some c =>
      cases hec : e.column with
      | none =>
        rw [hdc, hec] at hcolumn
        have hempty : c = "" := hcolumn
        exact absurd ⟨e, he, d, hd, hname.symm, hec, hempty ▸ hdc⟩ h
      | some c' =>
        rw [hdc, hec] at hcolumn
        exact congrArg some hcolumn
  rw [hname, hsame]

/-- With places of their own all definitions are stored. -/
theorem Describes.exists_stored_of_nodup (h : r.Describes compiler registry o)
    (hnodup : (r.metrics.map MetricDefinition.place).Nodup)
    (hd : d ∈ r.metrics) : ∃ m, o.at? d.place = some (.column m) ∧ d.Describes compiler m := by
  obtain ⟨m, hm⟩ := h.exists_stored hd
  obtain ⟨e, he, hplace, hdescribes⟩ := h.exists_definition hm
  have hsame : e = d := List.inj_on_of_nodup_map hnodup he hd hplace
  exact ⟨m, Overlay.at?_column_eq_some_iff.mpr hm, hsame ▸ hdescribes⟩

/-- Where two definitions fold, one of them is not stored. -/
theorem Describes.exists_lost (h : r.Describes compiler registry o) (hfolds : r.Folds) :
    ∃ d ∈ r.metrics, ∀ c n m, o.columnMetric? c n = some m → ¬d.Describes compiler m := by
  obtain ⟨d, hd, e, he, hname, hdc, hec⟩ := hfolds
  have hplace : d.place = e.place := by
    rw [MetricDefinition.place, MetricDefinition.place, hdc, hec, hname]
    rfl
  by_cases hstays : ∃ c n m, o.columnMetric? c n = some m ∧ d.Describes compiler m
  · refine ⟨e, he, fun c' n' m' hm' hdescribes' => ?_⟩
    obtain ⟨c, n, m, hm, hdescribes⟩ := hstays
    -- Both would stand at the common place, and be one metric.
    have hthere := h.at?_of_describes hm hdescribes
    have hthere' := h.at?_of_describes hm' hdescribes'
    rw [← hplace, hthere, Option.some.injEq, Metric.column.injEq] at hthere'
    rw [← hthere'] at hdescribes'
    have hcolumn : d.column = e.column := hdescribes.column.symm.trans hdescribes'.column
    rw [hdc, hec] at hcolumn
    cases hcolumn
  · exact ⟨d, hd, fun c n m hm hdescribes => hstays ⟨c, n, m, hm, hdescribes⟩⟩

/-- **A compiled document holds its definitions**, unless two of them fold.
Every valid document whose texts have meanings is compiled. Its spanning
metrics are there in order, and so is the uniqueness metric; at a column and
a name stands what the last definition for them describes, and nothing
stands elsewhere. So where no two definitions fold, each has a place of its
own and is stored there; where two fold, one is lost without a fault. -/
theorem overlay_holds_definitions (r : Rules) (compiler : Compiler) (registry : Registry)
    (hvalid : r.validate = .ok ()) (hcompiles : r.Compiles compiler registry) :
    ∃ o, r.compile compiler registry = .ok o ∧ r.Describes compiler registry o ∧
      (∀ c n m, o.columnMetric? c n = some m →
        ∃ d ∈ r.metrics, d.place = .column c n ∧ d.Describes compiler m) ∧
      (¬r.Folds → (r.metrics.map MetricDefinition.place).Nodup ∧
        ∀ d ∈ r.metrics, ∃ m, o.at? d.place = some (.column m) ∧ d.Describes compiler m) ∧
      (r.Folds → ∃ d ∈ r.metrics, ∀ c n m,
        o.columnMetric? c n = some m → ¬d.Describes compiler m) := by
  have hvalid : r.Valid := validate_eq_ok_iff.mp hvalid
  obtain ⟨o, ho⟩ := hcompiles.exists_compile hvalid
  have h := describes_of_compile ho
  refine ⟨o, ho, h, fun c n m hm => h.exists_definition hm, ?_, h.exists_lost⟩
  intro hfolds
  have hnodup := hvalid.nodup_places hfolds
  exact ⟨hnodup, fun d hd => h.exists_stored_of_nodup hnodup hd⟩

/-! ## Context columns -/

theorem exists_context_iff {m : SpanningMetric} :
    (∃ c, m.scope.column = some c) ↔ m.columns ≠ [] := by
  change (∃ c, m.columns.head? = some c) ↔ _
  rw [← Option.isSome_iff_exists, List.isSome_head?]

/-- Metrics span what their definitions span. -/
theorem spans_of_describes {ds : List SpanningDefinition} {ms : List SpanningMetric}
    (h : List.Forall₂ (SpanningDefinition.Describes compiler registry) ds ms)
    (hspans : ∀ d ∈ ds, d.columns ≠ []) : ∀ m ∈ ms, m.columns ≠ [] := by
  induction h with
  | nil => exact List.forall_mem_nil _
  | cons hm _ ih =>
    obtain ⟨hd, hrest⟩ := List.forall_mem_cons.mp hspans
    exact List.forall_mem_cons.mpr ⟨hm.columns ▸ hd, ih hrest⟩

/-- **Every listed spanning metric has a context column, and the uniqueness
metric has one if its definition has columns.** A document is compiled only if it
is valid, but what is asked of spanning metrics is asked of the list alone: a
uniqueness metric without columns passes, and is compiled to a metric without a
context column. -/
theorem contexts_of_compile (h : r.compile compiler registry = .ok o) :
    r.Valid ∧ (∀ m ∈ o.spanning, m.columns ≠ [] ∧ ∃ c, m.scope.column = some c) ∧
      ∀ d, r.uniqueness = some d → o.uniqueness.columns = d.columns ∧
        ((∃ c, o.uniqueness.scope.column = some c) ↔ d.columns ≠ []) := by
  obtain ⟨hvalid, -⟩ := compile_eq_ok_iff.mp h
  have hdescribes := describes_of_compile h
  have hspans := spans_of_describes hdescribes.spanning hvalid.spans
  refine ⟨hvalid, fun m hm => ⟨hspans m hm, exists_context_iff.mpr (hspans m hm)⟩,
    fun d hd => ?_⟩
  have hcolumns : o.uniqueness.columns = d.columns := by
    rw [hdescribes.uniqueness.columns, uniquenessDefinition, hd]
  rw [exists_context_iff, hcolumns]
  exact ⟨rfl, Iff.rfl⟩

end Rules

namespace Echo

/-- The compiler of checks, with the calls of the registry. -/
def compiler : Compiler := CheckLanguage.compiler registry.compiler

/-- A document with metrics of a column, of whole rows and of a function. -/
def document : Rules where
  metrics := [⟨"filled", some "a", none, .all, [⟨"nonBlank", none, false, some "not blank"⟩]⟩,
    ⟨"echoed", none, some "about rows", .any, [⟨"echo()", some "a", true, none⟩]⟩]
  uniqueness := none
  spanning := [metric ["a"] none]

theorem document_compiles : document.Compiles compiler registry := by
  refine ⟨?_, ?_, ?_⟩
  · intro d hd check hcheck
    simp only [document, List.mem_cons, List.not_mem_nil, or_false] at hd
    rcases hd with rfl | rfl
    · rw [List.mem_singleton.mp hcheck]
      exact ⟨_, rfl⟩
    · rw [List.mem_singleton.mp hcheck]
      exact ⟨_, rfl⟩
  · intro d hd
    rw [List.mem_singleton.mp hd]
    refine ⟨?_, nofun⟩
    intro definition hdefinition
    rw [← Option.some.inj hdefinition]
    exact ⟨function, _, rfl, rfl⟩
  · exact ⟨nofun, nofun⟩

/-- All definitions of the document are held. -/
theorem document_is_held : document.validate = .ok () ∧
    ∃ o, document.compile compiler registry = .ok o ∧
      ∀ d ∈ document.metrics, ∃ m, o.at? d.place = some (.column m) ∧ d.Describes compiler m := by
  have hvalid : document.validate = .ok () := rfl
  have hfolds : ¬document.Folds := by
    rw [Rules.Folds]
    decide
  obtain ⟨o, ho, -, -, hheld, -⟩ :=
    Rules.overlay_holds_definitions document compiler registry hvalid document_compiles
  exact ⟨hvalid, o, ho, (hheld hfolds).2⟩

/-- Two metrics of one name, one about rows and one about the column with
the empty name. -/
def folded : Rules := ⟨[⟨"m", none, none, .all, []⟩, ⟨"m", some "", none, .all, []⟩], none, []⟩

/-- The document is valid and compiled, and one of its metrics is lost. -/
theorem folded_metric_is_lost : folded.validate = .ok () ∧ folded.Compiles compiler registry ∧
    ∃ o, folded.compile compiler registry = .ok o ∧ ∃ d ∈ folded.metrics, ∀ c n m,
      o.columnMetric? c n = some m → ¬d.Describes compiler m := by
  have hvalid : folded.validate = .ok () := rfl
  have hcompiles : folded.Compiles compiler registry := by
    refine ⟨?_, nofun, nofun, nofun⟩
    intro d hd check hcheck
    simp only [folded, List.mem_cons, List.not_mem_nil, or_false] at hd
    rcases hd with rfl | rfl
    · cases hcheck
    · cases hcheck
  have hfolds : folded.Folds := by
    rw [Rules.Folds]
    decide
  obtain ⟨o, ho⟩ := hcompiles.exists_compile (Rules.validate_eq_ok_iff.mp hvalid)
  exact ⟨hvalid, hcompiles, o, ho, (Rules.describes_of_compile ho).exists_lost hfolds⟩

/-- A document with a uniqueness metric of these columns. -/
def unique (columns : List String) : Rules :=
  ⟨[], some ⟨"u", columns, none, none, .all, []⟩, []⟩

/-- The overlay of the document. -/
def uniqueOverlay (columns : List String) : Overlay :=
  .ofUniqueness ⟨⟨Overlay.uniquenessName, none, [], .all, OrderedMap.empty, none⟩, columns, none⟩

/-- A uniqueness metric with a column has it for its context. -/
theorem unique_has_context : (unique ["a"]).compile compiler registry = .ok (uniqueOverlay ["a"]) ∧
    ∃ c, (uniqueOverlay ["a"]).uniqueness.scope.column = some c := by
  have hcompile : (unique ["a"]).compile compiler registry = .ok (uniqueOverlay ["a"]) := rfl
  obtain ⟨-, -, huniqueness⟩ := Rules.contexts_of_compile hcompile
  exact ⟨hcompile, (huniqueness _ rfl).2.mpr (List.cons_ne_nil _ _)⟩

/-- A uniqueness metric without columns is accepted and compiled, and has no
context. -/
theorem unique_without_context : (unique []).validate = .ok () ∧
    (unique []).compile compiler registry = .ok (uniqueOverlay []) ∧
    (uniqueOverlay []).uniqueness.scope.column = none :=
  ⟨rfl, rfl, rfl⟩

end Echo

end DataQuality
