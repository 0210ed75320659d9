import DataQuality.Proofs.Rules.Compilation
/-!
# Reachable metrics — which addresses a compiled document answers

Every spanning metric of a compiled document is the first of its name, so
its name addresses it, and the uniqueness metric has its own name. A column
metric is addressed by its column and its name, with one exception: the
reserved name means the uniqueness metric in every column. No column metric
is kept from having that name, and one that has it is stored where no
address leads.
-/

namespace DataQuality

namespace Overlay

variable {o : Overlay} {c n : String} {i : Nat}

/-! ## Addresses of stored metrics -/

/-- Where names do not repeat, each of them addresses its own metric. -/
theorem means_spanning {m : SpanningMetric} (hnodup : (o.spanning.map (·.rule.name)).Nodup)
    (hname : m.rule.name ≠ uniquenessName) (hm : o.spanning[i]? = some m) :
    o.Means none m.rule.name (.spanning i) (.spanning m) := by
  obtain ⟨hlt, hget⟩ := List.getElem?_eq_some_iff.mp hm
  refine .spanning hname ?_ hm rfl
  rw [List.findIdx?_eq_some_iff_getElem]
  refine ⟨hlt, by rw [hget]; exact beq_self_eq_true _, fun j hj => ?_⟩
  -- An earlier metric has another name.
  have hother := List.pairwise_iff_getElem.mp (List.pairwise_map.mp hnodup) j i (by omega) hlt hj
  rw [hget] at hother
  rwa [beq_iff_eq]

/-- A stored metric is addressed by its column and its name, unless that is
the reserved one. -/
theorem means_column {m : ColumnMetric} (hname : n ≠ uniquenessName)
    (hm : o.columnMetric? c n = some m) : o.Means (some c) n (.column c n) (.column m) := by
  obtain ⟨named, hc, hn⟩ := Option.bind_eq_some_iff.mp hm
  exact .column hname hc hn

/-- No address leads to a column metric of the reserved name. -/
theorem place?_ne_column {column : Option String} {name : String} :
    o.place? column name ≠ some (.column c uniquenessName) := by
  intro h
  obtain ⟨m, hmeans⟩ := means_of_place? h
  cases hmeans with
  | column hname => exact hname rfl

end Overlay

namespace Rules

variable {compiler : Compiler} {registry : Registry} {r : Rules} {o : Overlay} {c n : String}
variable {i : Nat}

/-! ## Compiled documents -/

/-- Spanning metrics have the names of their definitions. -/
theorem Describes.spanning_names (h : r.Describes compiler registry o) :
    o.spanning.map (·.rule.name) = r.spanning.map (·.name) := by
  obtain ⟨-, hspanning, -⟩ := h
  generalize o.spanning = ms at hspanning
  generalize r.spanning = ds at hspanning
  induction hspanning with
  | nil => rfl
  | cons hm hrest ih => rw [List.map_cons, List.map_cons, hm.rule.name, ih]

/-- Every spanning metric of a valid document is addressed by its name. -/
theorem Valid.means_spanning {m : SpanningMetric} (hvalid : r.Valid)
    (h : r.Describes compiler registry o) (hm : o.spanning[i]? = some m) :
    o.Means none m.rule.name (.spanning i) (.spanning m) := by
  have hnames := h.spanning_names
  have hfree : m.rule.name ≠ Overlay.uniquenessName := by
    have hmem : m.rule.name ∈ r.spanning.map (·.name) := by
      rw [← hnames]
      exact List.mem_map.mpr ⟨m, List.mem_of_getElem? hm, rfl⟩
    obtain ⟨d, hd, hname⟩ := List.mem_map.mp hmem
    rw [← hname]
    exact hvalid.free d hd
  refine Overlay.means_spanning ?_ hfree hm
  rw [hnames]
  exact hvalid.distinctSpanning

/-- Where no column metric has the reserved name, every metric is meant by
some address. -/
theorem Describes.exists_means {place : Place} {m : Metric}
    (h : r.Describes compiler registry o) (hvalid : r.Valid)
    (hfree : ∀ d ∈ r.metrics, d.name ≠ Overlay.uniquenessName) (hm : o.at? place = some m) :
    ∃ column name, o.Means column name place m := by
  cases place with
  | uniqueness =>
    cases hm
    exact ⟨none, _, .uniqueness⟩
  | spanning i =>
    obtain ⟨s, hs, rfl⟩ := Option.map_eq_some_iff.mp hm
    exact ⟨_, _, hvalid.means_spanning h hs⟩
  | column c n =>
    rw [Overlay.at?_column] at hm
    obtain ⟨s, hs, rfl⟩ := Option.map_eq_some_iff.mp hm
    obtain ⟨d, hd, hplace, -⟩ := h.exists_definition hs
    have hname : d.name = n := (Place.column.inj hplace).2
    exact ⟨_, _, Overlay.means_column (hname ▸ hfree d hd) hs⟩

/-- **Everything is addressed but what has the reserved name.** In the
overlay of a compiled document the reserved name means the uniqueness metric
in every column, and every spanning metric is the one that its name means. A
column metric stands under its own column and name, which mean it, unless the
name is the reserved one: then no address means it. So all metrics can be
addressed just when no column metric of the document has the reserved name. -/
theorem metrics_are_addressed (r : Rules) (compiler : Compiler) (registry : Registry)
    (o : Overlay) (hcompile : r.compile compiler registry = .ok o) :
    (∀ column, o.target column Overlay.uniquenessName = .ok (.spanning o.uniqueness)) ∧
      (∀ i m, o.spanning[i]? = some m → o.place? none m.rule.name = some (.spanning i) ∧
        o.target none m.rule.name = .ok (.spanning m)) ∧
      (∀ c n m, o.columnMetric? c n = some m → m.rule.name = n ∧ m.column.getD "" = c ∧
        (n ≠ Overlay.uniquenessName → o.place? (some c) n = some (.column c n) ∧
          o.target (some c) n = .ok (.column m)) ∧
        (n = Overlay.uniquenessName → ∀ column name,
          o.place? column name ≠ some (.column c n))) ∧
      ((∀ place m, o.at? place = some m → ∃ column name,
          o.place? column name = some place ∧ o.target column name = .ok m) ↔
        ∀ d ∈ r.metrics, d.name ≠ Overlay.uniquenessName) := by
  have h := describes_of_compile hcompile
  obtain ⟨hvalid, -⟩ := compile_eq_ok_iff.mp hcompile
  refine ⟨fun column => Overlay.Means.uniqueness.target, ?_, ?_, ?_⟩
  · intro i m hm
    have hmeans := hvalid.means_spanning h hm
    exact ⟨hmeans.place?, hmeans.target⟩
  · intro c n m hm
    obtain ⟨hcolumn, hname⟩ := ColumnMetric.place_eq_iff.mp (h.place_eq hm)
    refine ⟨hname, hcolumn, fun hn => ?_, ?_⟩
    · have hmeans := Overlay.means_column hn hm
      exact ⟨hmeans.place?, hmeans.target⟩
    · rintro rfl column name
      exact Overlay.place?_ne_column
  · constructor
    · intro hall d hd hreserved
      obtain ⟨m, hm⟩ := h.exists_stored hd
      rw [hreserved] at hm
      obtain ⟨column, name, hplace, -⟩ := hall _ _ (Overlay.at?_column_eq_some_iff.mpr hm)
      exact Overlay.place?_ne_column hplace
    · intro hfree place m hm
      obtain ⟨column, name, hmeans⟩ := h.exists_means hvalid hfree hm
      exact ⟨column, name, hmeans.place?, hmeans.target⟩

end Rules

namespace Echo

/-- All metrics of the document are addressed. -/
theorem document_is_addressed : ∃ o, document.compile compiler registry = .ok o ∧
    ∀ place m, o.at? place = some m → ∃ column name,
      o.place? column name = some place ∧ o.target column name = .ok m := by
  have hvalid : document.Valid := Rules.validate_eq_ok_iff.mp rfl
  obtain ⟨o, ho⟩ := document_compiles.exists_compile hvalid
  obtain ⟨-, -, -, hall⟩ := Rules.metrics_are_addressed document compiler registry o ho
  exact ⟨o, ho, hall.mpr (by decide)⟩

/-- A metric of a column that has the reserved name. -/
def reserved : Rules :=
  ⟨[⟨"uniqueness", some "a", none, .all, [⟨"true", none, false, none⟩]⟩], none, []⟩

/-- The document is valid and compiled, its metric is stored, and the column
and the name of the metric mean another one. -/
theorem reserved_metric_is_shadowed : reserved.validate = .ok () ∧
    ∃ o, reserved.compile compiler registry = .ok o ∧
      (∃ m, o.columnMetric? "a" "uniqueness" = some m) ∧
      o.target (some "a") "uniqueness" = .ok (.spanning o.uniqueness) ∧
      ∀ column name, o.place? column name ≠ some (.column "a" "uniqueness") := by
  have hvalid : reserved.validate = .ok () := rfl
  have hcompiles : reserved.Compiles compiler registry := by
    refine ⟨?_, nofun, nofun, nofun⟩
    intro d hd check hcheck
    rw [List.mem_singleton.mp hd] at hcheck
    rw [List.mem_singleton.mp hcheck]
    exact ⟨_, rfl⟩
  obtain ⟨o, ho⟩ := hcompiles.exists_compile (Rules.validate_eq_ok_iff.mp hvalid)
  have hstored := (Rules.describes_of_compile ho).exists_stored (List.mem_singleton_self _)
  exact ⟨hvalid, o, ho, hstored, Overlay.Means.uniqueness.target,
    fun column name => Overlay.place?_ne_column⟩

end Echo

end DataQuality
