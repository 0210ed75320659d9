import DataQuality.Rules.Validation
import Mathlib.Data.List.Nodup
/-!
# Valid rules — what acceptance of a document means

The checks of a document scan its metrics with a list of what was seen. Here
stands what they come to together, without a scan (`Valid`): every name says
something, no two column metrics have the same name and column, no spanning
metric has the reserved name, no two share a name and none is without
columns. A document is accepted just when that holds.
-/

namespace DataQuality

namespace Rules

open Text (AllBlank)

/-- The names of all metrics of a document, the uniqueness metric apart. -/
def names (r : Rules) : List String := r.metrics.map (·.name) ++ r.spanning.map (·.name)

/-- What is asked of a document. -/
structure Valid (r : Rules) : Prop where
  /-- Every name says something. -/
  named : ∀ name ∈ r.names, ¬AllBlank name.toList
  /-- No two column metrics agree in name and column. -/
  distinct : (r.metrics.map fun d => (d.name, d.column)).Nodup
  /-- The reserved name stays free. -/
  free : ∀ d ∈ r.spanning, d.name ≠ Overlay.uniquenessName
  /-- No two spanning metrics share a name. -/
  distinctSpanning : (r.spanning.map (·.name)).Nodup
  /-- Every spanning metric has columns. -/
  spans : ∀ d ∈ r.spanning, d.columns ≠ []

variable {r : Rules}

theorem isBlankName_iff {name : String} : isBlankName name = true ↔ AllBlank name.toList :=
  List.all_eq_true

/-- The scan of column metrics finds no repetition just when there is none,
neither of what was seen nor among the rest. -/
theorem metricsProblem?_eq_none_iff {seen : List (String × Option String)}
    {ds : List MetricDefinition} : metricsProblem? seen ds = none ↔
      (∀ d ∈ ds, (d.name, d.column) ∉ seen) ∧ (ds.map fun d => (d.name, d.column)).Nodup := by
  -- What is seen grows by the head, so the rest must also differ from that.
  induction ds generalizing seen with
  | nil => simp [metricsProblem?]
  | cons d rest ih =>
    rw [metricsProblem?, List.map_cons, List.nodup_cons, List.forall_mem_cons]
    by_cases hseen : (d.name, d.column) ∈ seen
    · rw [if_pos (List.contains_iff_mem.mpr hseen)]
      constructor
      · exact nofun
      · rintro ⟨⟨hnot, -⟩, -⟩
        exact absurd hseen hnot
    · rw [if_neg (by simpa using hseen), ih]
      constructor
      · rintro ⟨hrest, hnodup⟩
        refine ⟨⟨hseen, fun e he => List.not_mem_of_not_mem_cons (hrest e he)⟩, ?_, hnodup⟩
        intro hmem
        obtain ⟨e, he, heq⟩ := List.mem_map.mp hmem
        exact List.ne_of_not_mem_cons (hrest e he) heq
      · rintro ⟨⟨-, hrest⟩, hnot, hnodup⟩
        refine ⟨fun e he => List.not_mem_cons_of_ne_of_not_mem (fun heq => ?_) (hrest e he), hnodup⟩
        exact hnot (List.mem_map.mpr ⟨e, he, heq⟩)

/-- The scan of spanning metrics finds nothing just when each of them is in
order and no name comes twice. -/
theorem spanningProblem?_eq_none_iff {seen : List String} {ds : List SpanningDefinition} :
    spanningProblem? seen ds = none ↔
      (∀ d ∈ ds, d.name ≠ Overlay.uniquenessName ∧ d.name ∉ seen ∧ d.columns ≠ []) ∧
        (ds.map (·.name)).Nodup := by
  induction ds generalizing seen with
  | nil => simp [spanningProblem?]
  | cons d rest ih =>
    rw [spanningProblem?, List.map_cons, List.nodup_cons, List.forall_mem_cons]
    by_cases hname : d.name = Overlay.uniquenessName
    · rw [if_pos hname]
      constructor
      · exact nofun
      · rintro ⟨⟨⟨hne, -⟩, -⟩, -⟩
        exact absurd hname hne
    by_cases hseen : d.name ∈ seen
    · rw [if_neg hname, if_pos (List.contains_iff_mem.mpr hseen)]
      constructor
      · exact nofun
      · rintro ⟨⟨⟨-, hnot, -⟩, -⟩, -⟩
        exact absurd hseen hnot
    by_cases hcolumns : d.columns = []
    · rw [if_neg hname, if_neg (by simpa using hseen), if_pos (List.isEmpty_iff.mpr hcolumns)]
      constructor
      · exact nofun
      · rintro ⟨⟨⟨-, -, hne⟩, -⟩, -⟩
        exact absurd hcolumns hne
    rw [if_neg hname, if_neg (by simpa using hseen), if_neg (by simpa using hcolumns), ih]
    constructor
    · rintro ⟨hrest, hnodup⟩
      refine ⟨⟨⟨hname, hseen, hcolumns⟩, fun e he => ?_⟩, ?_, hnodup⟩
      · obtain ⟨hfree, hnot, hspans⟩ := hrest e he
        exact ⟨hfree, List.not_mem_of_not_mem_cons hnot, hspans⟩
      · intro hmem
        obtain ⟨e, he, heq⟩ := List.mem_map.mp hmem
        exact List.ne_of_not_mem_cons (hrest e he).2.1 heq
    · rintro ⟨⟨-, hrest⟩, hnot, hnodup⟩
      refine ⟨fun e he => ?_, hnodup⟩
      obtain ⟨hfree, hnotSeen, hspans⟩ := hrest e he
      refine ⟨hfree, List.not_mem_cons_of_ne_of_not_mem (fun heq => ?_) hnotSeen, hspans⟩
      exact hnot (List.mem_map.mpr ⟨e, he, heq⟩)

theorem problem?_eq_none_iff : r.problem? = none ↔ r.Valid := by
  have hblank : (r.metrics.map (·.name) ++ r.spanning.map (·.name)).any isBlankName = true ↔
      ∃ name ∈ r.names, AllBlank name.toList := by
    rw [List.any_eq_true]
    simp only [isBlankName_iff, names]
  rw [problem?]
  constructor
  · intro h
    split at h
    · cases h
    · rename_i hnamed
      split at h
      · cases h
      · rename_i hmetrics
        obtain ⟨-, hdistinct⟩ := metricsProblem?_eq_none_iff.mp hmetrics
        obtain ⟨heach, hspanning⟩ := spanningProblem?_eq_none_iff.mp h
        exact {
          named := fun name hmem hall => hnamed (hblank.mpr ⟨name, hmem, hall⟩)
          distinct := hdistinct
          free := fun d hd => (heach d hd).1
          distinctSpanning := hspanning
          spans := fun d hd => (heach d hd).2.2 }
  · intro h
    have hnamed : ¬(r.metrics.map (·.name) ++ r.spanning.map (·.name)).any isBlankName = true := by
      rw [hblank]
      rintro ⟨name, hmem, hall⟩
      exact h.named name hmem hall
    have hmetrics : metricsProblem? [] r.metrics = none :=
      metricsProblem?_eq_none_iff.mpr ⟨fun _ _ => List.not_mem_nil, h.distinct⟩
    rw [if_neg hnamed, hmetrics]
    exact spanningProblem?_eq_none_iff.mpr
      ⟨fun d hd => ⟨h.free d hd, List.not_mem_nil, h.spans d hd⟩, h.distinctSpanning⟩

/-- **A document is accepted just when it is valid.** -/
theorem validate_eq_ok_iff : r.validate = .ok () ↔ r.Valid := by
  rw [validate, ← problem?_eq_none_iff]
  cases r.problem? with
  | none => exact ⟨fun _ => rfl, fun _ => rfl⟩
  | some p => exact ⟨nofun, nofun⟩

end Rules

end DataQuality
