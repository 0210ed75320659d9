import DataQuality.Proofs.Overlay.Place
import DataQuality.Proofs.Pass.Reference
import DataQuality.Proofs.Pass.Repetition
/-!
# Requests — passes of an overlay, one metric after another

A request addresses a metric and runs one pass of it over all rows. Where
crashes are caught a request is a write at one place: the metric there is
replaced by itself evaluated, and a request that has no place fails and
writes nothing. So requests neither see nor disturb each other.
-/

namespace DataQuality

namespace Overlay

/-- The column, if there is one, and the name that a request addresses. -/
abbrev Request := Option String × String

section

variable {o o' : Overlay} {project : Project} {binder : Binder} {config : EvaluationConfig}
variable {column : Option String} {name : String}

/-- **What a request does**: it has no place, fails and leaves the overlay as
it is, or it has one, and writes the evaluated metric there and returns its
counters. -/
theorem evaluate_cases (o : Overlay) (project : Project) (column : Option String) (name : String)
    (binder : Binder) (hcatch : config.catchesCrashes = true) :
    (o.place? column name = none ∧ o.evaluate project column name binder config =
        (o, [], .failed (.metricNotFound name column))) ∨
      ∃ place m events, o.place? column name = some place ∧ o.Means column name place m ∧
        o.evaluate project column name binder config =
          (o.putRule column name (m.evaluated project [] binder config).rule, events,
            .returned (m.counters project [] binder config)) := by
  cases hplace : o.place? column name with
  | none =>
    refine Or.inl ⟨rfl, ?_⟩
    rw [evaluate, evaluateOver, target_of_place?_eq_none hplace]
  | some place =>
    obtain ⟨m, h⟩ := means_of_place? hplace
    have hanswers : ∀ r ∈ project.rows.zipIdx, ∀ test ∈ ([] : List RowTest),
        ∃ answer, (test project r.2 r.1).2 = .ok answer :=
      fun r _ test htest => absurd htest List.not_mem_nil
    obtain ⟨m', events, stats, hreturned, hcompletes⟩ :=
      Metric.evaluate_returns m binder hcatch hanswers
    refine Or.inr ⟨place, m, events, rfl, h, ?_⟩
    rw [evaluate, evaluateOver, h.target]
    simp only [hreturned]
    rw [hcompletes.leaves, hcompletes.stats, Metric.evaluated, Metric.counters]

/-- **A request writes at one place**: the metric there is evaluated. -/
theorem at?_evaluate (hcatch : config.catchesCrashes = true) (q : Place) :
    (o.evaluate project column name binder config).1.at? q =
      if o.place? column name = some q then
        (o.at? q).map (·.evaluated project [] binder config)
      else o.at? q := by
  rcases evaluate_cases o project column name binder hcatch with
    ⟨hplace, heq⟩ | ⟨place, m, events, hplace, h, heq⟩
  · rw [heq, hplace, if_neg nofun]
  · rw [heq, hplace, h.at?_putRule]
    by_cases hq : q = place
    · subst hq
      rw [if_pos rfl, if_pos rfl, h.at?, Option.map_some, Metric.evaluated,
        Metric.withRule_rule_afterPass]
    · rw [if_neg hq, if_neg fun he => hq (Option.some.inj he).symm]

theorem columnNames_evaluate (hcatch : config.catchesCrashes = true) :
    (o.evaluate project column name binder config).1.columnNames = o.columnNames := by
  rcases evaluate_cases o project column name binder hcatch with
    ⟨-, heq⟩ | ⟨place, m, events, -, h, heq⟩
  · rw [heq]
  · rw [heq, h.columnNames_putRule]

/-- A request moves no metric: addresses mean the places they meant. -/
theorem place?_evaluate (hcatch : config.catchesCrashes = true) (column' : Option String)
    (name' : String) :
    (o.evaluate project column name binder config).1.place? column' name' =
      o.place? column' name' := by
  rcases evaluate_cases o project column name binder hcatch with
    ⟨-, heq⟩ | ⟨place, m, events, -, h, heq⟩
  · rw [heq]
  · have hname : (m.evaluated project [] binder config).rule.name = m.rule.name := by
      rw [Metric.evaluated, Metric.afterPass, Metric.rule_withRule]
    rw [heq, h.place?_putRule hname]

/-- **How a request ends** depends on the metric it addresses alone. -/
theorem ending_evaluate (hcatch : config.catchesCrashes = true) :
    (o.evaluate project column name binder config).2.2 =
      match (o.place? column name).bind o.at? with
      | some m => .returned (m.counters project [] binder config)
      | none => .failed (.metricNotFound name column) := by
  rcases evaluate_cases o project column name binder hcatch with
    ⟨hplace, heq⟩ | ⟨place, m, events, hplace, h, heq⟩
  · rw [heq, hplace]
    rfl
  · rw [heq, hplace, Option.bind_some, h.at?]

end

/-! ## Requests one after another -/

section

variable {o o' : Overlay} {project : Project} {binder : Binder} {config : EvaluationConfig}
variable {request : Request} {requests requests' : List Request}

/-- The overlay after some requests. -/
def evaluateAll (o : Overlay) (project : Project) (binder : Binder) (config : EvaluationConfig)
    (requests : List Request) : Overlay :=
  requests.foldl (fun o r => (o.evaluate project r.1 r.2 binder config).1) o

/-- The places that some requests address. -/
def addressed (o : Overlay) (requests : List Request) : List Place :=
  requests.filterMap fun r => o.place? r.1 r.2

theorem addressed_evaluate (hcatch : config.catchesCrashes = true) (requests : List Request) :
    (o.evaluate project request.1 request.2 binder config).1.addressed requests =
      o.addressed requests := by
  rw [addressed, addressed]
  exact congrArg (List.filterMap · requests) (funext fun r => place?_evaluate hcatch r.1 r.2)

theorem columnNames_evaluateAll (hcatch : config.catchesCrashes = true) :
    (o.evaluateAll project binder config requests).columnNames = o.columnNames := by
  induction requests generalizing o with
  | nil => rfl
  | cons r rest ih =>
    rw [evaluateAll, List.foldl_cons]
    exact ih.trans (columnNames_evaluate hcatch)

/-- **The metric at a place after some requests**: evaluated if one of them
addressed it, and as it was if none did. -/
theorem at?_evaluateAll (hcatch : config.catchesCrashes = true) (q : Place) :
    (o.evaluateAll project binder config requests).at? q =
      if q ∈ o.addressed requests then (o.at? q).map (·.evaluated project [] binder config)
      else o.at? q := by
  induction requests generalizing o with
  | nil => rfl
  | cons r rest ih =>
    have hrest := ih (o := (o.evaluate project r.1 r.2 binder config).1)
    rw [addressed_evaluate hcatch, at?_evaluate hcatch] at hrest
    have hmem : q ∈ o.addressed (r :: rest) ↔
        o.place? r.1 r.2 = some q ∨ q ∈ o.addressed rest := by
      rw [addressed, addressed, List.mem_filterMap, List.mem_filterMap]
      simp
    rw [evaluateAll, List.foldl_cons]
    refine hrest.trans ?_
    by_cases hr : o.place? r.1 r.2 = some q
    · rw [if_pos (hmem.mpr (Or.inl hr)), if_pos hr]
      -- A metric that is addressed again is evaluated already.
      split
      · rw [Option.map_map]
        refine congrArg (Option.map · (o.at? q)) (funext fun m => ?_)
        exact (Metric.evaluated_evaluated hcatch).1
      · rfl
    · rw [if_neg hr]
      by_cases hq : q ∈ o.addressed rest
      · rw [if_pos hq, if_pos (hmem.mpr (Or.inr hq))]
      · rw [if_neg hq, if_neg fun h => (hmem.mp h).elim hr hq]

/-- **Only what is addressed matters**, not how often or in what order. -/
theorem evaluateAll_congr (hcatch : config.catchesCrashes = true)
    (h : ∀ q, q ∈ o.addressed requests ↔ q ∈ o.addressed requests') :
    o.evaluateAll project binder config requests =
      o.evaluateAll project binder config requests' := by
  refine ext_at? ?_ fun q => ?_
  · rw [columnNames_evaluateAll hcatch, columnNames_evaluateAll hcatch]
  · rw [at?_evaluateAll hcatch, at?_evaluateAll hcatch]
    simp only [h q]

/-- **A request ends as it would without the ones before**: what they
published does not count. -/
theorem ending_evaluate_evaluate (hcatch : config.catchesCrashes = true)
    (request request' : Request) :
    ((o.evaluate project request'.1 request'.2 binder config).1.evaluate project request.1
        request.2 binder config).2.2 =
      (o.evaluate project request.1 request.2 binder config).2.2 := by
  rw [ending_evaluate hcatch, ending_evaluate hcatch, place?_evaluate hcatch]
  cases o.place? request.1 request.2 with
  | none => rfl
  | some q =>
    rw [Option.bind_some, Option.bind_some, at?_evaluate hcatch]
    by_cases hq : o.place? request'.1 request'.2 = some q
    · rw [if_pos hq]
      cases o.at? q with
      | none => rfl
      | some m => exact congrArg Ending.returned (Metric.evaluated_evaluated hcatch).2
    · rw [if_neg hq]

/-- Overlays that are the same but for what they have published have their
metrics at the same addresses. -/
theorem place?_of_unpublished
    (h : ∀ q, (o'.at? q).map Metric.unpublished = (o.at? q).map Metric.unpublished)
    (column : Option String) (name : String) : o'.place? column name = o.place? column name := by
  have hname : ∀ (o : Overlay) (i : Nat), (o.spanning.map (·.rule.name))[i]? =
      ((o.at? (.spanning i)).map Metric.unpublished).map (·.rule.name) := by
    intro o i
    rw [List.getElem?_map, at?]
    cases o.spanning[i]? <;> rfl
  refine place?_congr (List.ext_getElem? fun i => ?_) (fun c n => ?_) column name
  · rw [hname, hname, h]
  · have hsome := congrArg Option.isSome (h (.column c n))
    rw [Option.isSome_map, Option.isSome_map] at hsome
    exact hsome

theorem at?_evaluateAll_of_unpublished (hcatch : config.catchesCrashes = true)
    (h : ∀ q, (o'.at? q).map Metric.unpublished = (o.at? q).map Metric.unpublished) {q : Place}
    (hq : q ∈ o.addressed requests) :
    (o'.evaluateAll project binder config requests).at? q =
      (o.evaluateAll project binder config requests).at? q := by
  have haddressed : o'.addressed requests = o.addressed requests :=
    congrArg (List.filterMap · requests) (funext fun r => place?_of_unpublished h r.1 r.2)
  rw [at?_evaluateAll hcatch, at?_evaluateAll hcatch, haddressed, if_pos hq, if_pos hq]
  have hmetric := h q
  cases hm : o.at? q with
  | none =>
    rw [hm] at hmetric
    rw [Option.map_eq_none_iff.mp hmetric, Option.map_none]
  | some m =>
    rw [hm] at hmetric
    obtain ⟨m', hm', hunpublished⟩ := Option.map_eq_some_iff.mp hmetric
    rw [hm', Option.map_some, Option.map_some,
      (Metric.evaluated_of_unpublished hcatch hunpublished).1]

end

/-- **Requests are independent.** Where crashes are caught, whatever is
addressed and in whatever order: a request changes nothing but the metric
at the place it addresses, and of that one only what is published and the
columns that checks keep; it fails just when it addresses nothing, and then
nothing changes; made twice it leaves what it left the first time, with the
same counters; two requests can be swapped, and each ends as it would by
itself. So after any requests a metric is as one pass leaves it if it was
addressed and as it was if not, and what was published before, how often
requests were made and in what order makes no difference. -/
theorem requests_are_independent (o : Overlay) (project : Project) (binder : Binder)
    (config : EvaluationConfig) (hcatch : config.catchesCrashes = true) :
    let run (o : Overlay) (r : Request) := o.evaluate project r.1 r.2 binder config
    let all (o : Overlay) (rs : List Request) := o.evaluateAll project binder config rs
    (∀ r, (run o r).1.columnNames = o.columnNames ∧
        (∀ q, o.place? r.1 r.2 ≠ some q → (run o r).1.at? q = o.at? q) ∧
        ∀ q, ((run o r).1.at? q).map Metric.setup = (o.at? q).map Metric.setup) ∧
      (∀ r, (o.place? r.1 r.2 = none → run o r = (o, [], .failed (.metricNotFound r.2 r.1))) ∧
        (o.place? r.1 r.2 ≠ none → ∃ stats, (run o r).2.2 = .returned stats)) ∧
      (∀ r, (run (run o r).1 r).1 = (run o r).1 ∧ (run (run o r).1 r).2.2 = (run o r).2.2) ∧
      (∀ r r', (run (run o r).1 r').1 = (run (run o r').1 r).1 ∧
        (run (run o r).1 r').2.2 = (run o r').2.2 ∧ (run (run o r').1 r).2.2 = (run o r).2.2) ∧
      (∀ rs q, (all o rs).at? q =
        if q ∈ o.addressed rs then (o.at? q).map (·.evaluated project [] binder config)
        else o.at? q) ∧
      (∀ rs rs', (∀ q, q ∈ o.addressed rs ↔ q ∈ o.addressed rs') → all o rs = all o rs') ∧
      ∀ o', (∀ q, (o'.at? q).map Metric.unpublished = (o.at? q).map Metric.unpublished) →
        ∀ rs q, q ∈ o.addressed rs → (all o' rs).at? q = (all o rs).at? q := by
  intro run all
  refine ⟨fun r => ⟨columnNames_evaluate hcatch, ?_, ?_⟩,
    fun r => ?_,
    fun r => ⟨?_, ending_evaluate_evaluate hcatch r r⟩,
    fun r r' => ⟨?_, ending_evaluate_evaluate hcatch r' r, ending_evaluate_evaluate hcatch r r'⟩,
    fun rs q => at?_evaluateAll hcatch q, fun rs rs' => evaluateAll_congr hcatch,
    fun o' h rs q hq => at?_evaluateAll_of_unpublished hcatch h hq⟩
  · intro q hq
    rw [at?_evaluate hcatch, if_neg hq]
  · intro q
    rw [at?_evaluate hcatch]
    split
    · rw [Option.map_map]
      exact congrArg (Option.map · (o.at? q)) (funext fun m => Metric.setup_afterPass m _)
    · rfl
  · rcases evaluate_cases o project r.1 r.2 binder hcatch with
      ⟨hplace, heq⟩ | ⟨place, m, events, hplace, -, heq⟩
    · exact ⟨fun _ => heq, fun hne => absurd hplace hne⟩
    · refine ⟨fun hnone => ?_, fun _ => ⟨_, congrArg (fun x => x.2.2) heq⟩⟩
      rw [hplace] at hnone
      cases hnone
  · -- A request made twice addresses what it addresses once.
    change all o [r, r] = all o [r]
    refine evaluateAll_congr hcatch fun q => ?_
    simp [addressed, List.mem_filterMap]
  · -- Two requests address the same places either way round.
    change all o [r, r'] = all o [r', r]
    refine evaluateAll_congr hcatch fun q => ?_
    exact ((List.Perm.swap r' r []).filterMap _).mem_iff

end Overlay

namespace Flags

/-- The metric of flags, and no other but uniqueness. -/
def overlay : Overlay := Overlay.empty.add metric

/-- A request for the flags and one for uniqueness address two metrics, the
second one by the reserved name alone, and can be swapped. Without a column
the flags are not found. -/
theorem requests_swap :
    let run (o : Overlay) (r : Overlay.Request) :=
      o.evaluate project r.1 r.2 Binder.plain .standard
    let flags : Overlay.Request := (some "raised", "set")
    let unique : Overlay.Request := (some "raised", "uniqueness")
    overlay.addressed [flags, unique] = [.column "raised" "set", .uniqueness] ∧
      (run (run overlay flags).1 unique).1 = (run (run overlay unique).1 flags).1 ∧
      (run (run overlay unique).1 flags).2.2 = (run overlay flags).2.2 ∧
      run overlay (none, "set") = (overlay, [], .failed (.metricNotFound "set" none)) := by
  intro run flags unique
  obtain ⟨-, hfails, -, hswap, -⟩ :=
    Overlay.requests_are_independent overlay project Binder.plain .standard rfl
  obtain ⟨hoverlay, -, hending⟩ := hswap flags unique
  exact ⟨by decide, hoverlay, hending, (hfails (none, "set")).1 (by decide)⟩

end Flags

end DataQuality
