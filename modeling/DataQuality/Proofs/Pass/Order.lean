import DataQuality.Proofs.Pass.Counters
import DataQuality.Proofs.Pass.Encounters
import DataQuality.Proofs.Pass.Variation
/-!
# Order — the checks of a metric by themselves

A row is judged by the values of its checks, and no check has a part in what
another one sees. So checks may change places (`Metric.evaluate_perm`), a
disabled check is as good as none (`Metric.evaluate_insert_disabled`), and a
check that never comes to a truth value is counted and nothing else
(`Metric.evaluate_insert_silent`).
-/

namespace DataQuality

/-! ## Verdicts and findings -/

/-- **A verdict does not depend on the order of results.** -/
theorem Combination.isDirty_perm (c : Combination) {results results' : List Bool}
    (h : results'.Perm results) : c.isDirty results' = c.isDirty results := by
  cases c with
  | all => simp only [isDirty, h.isEmpty_eq, h.any_eq]
  | any => simp only [isDirty, h.isEmpty_eq, h.all_eq]
  | exactlyOne => simp only [isDirty, h.isEmpty_eq, h.count_eq]

namespace Finding

variable {α : Type} {c : Combination} {l : List α} {f g : α → Finding} {fs : List Finding}

theorem total_map_congr {n m : Finding → Nat} (h : ∀ a ∈ l, n (f a) = m (g a)) :
    total n (l.map f) = total m (l.map g) := by
  induction l with
  | nil => rfl
  | cons a rest ih =>
    rw [List.forall_mem_cons] at h
    rw [List.map_cons, List.map_cons, total, total, h.1, ih h.2]

theorem countP_map_congr {sort : Finding → Bool} (h : ∀ a ∈ l, sort (f a) = sort (g a)) :
    (l.map f).countP sort = (l.map g).countP sort := by
  rw [List.countP_map, List.countP_map]
  exact List.countP_congr fun a ha => by rw [Function.comp_apply, Function.comp_apply, h a ha]

/-- Findings that are alike in what is counted have the same counters. -/
theorem stats_map_congr (hjudged : ∀ a ∈ l, (f a).isJudged = (g a).isJudged)
    (hexcluded : ∀ a ∈ l, (f a).excluded = (g a).excluded)
    (hdirty : ∀ a ∈ l, (f a).isDirty c = (g a).isDirty c) :
    stats c (l.map f) = stats c (l.map g) := by
  have hrefused : (l.map f).countP (!·.isJudged) = (l.map g).countP (!·.isJudged) :=
    countP_map_congr fun a ha => congrArg (!·) (hjudged a ha)
  rw [stats, stats, List.length_map, List.length_map, countP_map_congr hjudged, hrefused,
    countP_map_congr hdirty, total_map_congr hexcluded]

/-- A row is listed as dirty if it was found dirty. -/
theorem mem_keys_dirtyIndex (h : (fs.map index).Nodup) {i : Nat} :
    i ∈ (dirtyIndex c fs).keys ↔ ∃ f ∈ fs, f.index = i ∧ f.isDirty c = true := by
  rw [OrderedMap.mem_keys_iff, Option.isSome_iff_exists]
  simp only [get?_dirtyIndex h]
  constructor
  · rintro ⟨rs, n, hmem, hdirty⟩
    exact ⟨_, hmem, rfl, hdirty⟩
  · rintro ⟨f, hmem, rfl, hdirty⟩
    cases f with
    | refused i => cases hdirty
    | judged i rs n => exact ⟨rs, n, hmem, hdirty⟩

/-- Findings about the same rows that are dirty together list the same rows. -/
theorem keys_dirtyIndex_map_congr (hf : ((l.map f).map index).Nodup)
    (hg : ((l.map g).map index).Nodup) (hindex : ∀ a ∈ l, (f a).index = (g a).index)
    (hdirty : ∀ a ∈ l, (f a).isDirty c = (g a).isDirty c) :
    (dirtyIndex c (l.map f)).keys = (dirtyIndex c (l.map g)).keys := by
  refine OrderedMap.keys_eq_of_isSome fun i => ?_
  rw [Bool.eq_iff_iff, ← OrderedMap.mem_keys_iff, ← OrderedMap.mem_keys_iff,
    mem_keys_dirtyIndex hf, mem_keys_dirtyIndex hg]
  simp only [List.mem_map, exists_exists_and_eq_and]
  exact exists_congr fun a => and_congr_right fun ha => by rw [hindex a ha, hdirty a ha]

/-- The finding with one more result left out, if the row was judged. -/
def excludingOne : Finding → Finding
  | refused i => refused i
  | judged i rs n => judged i rs (n + 1)

@[simp] theorem isJudged_excludingOne (f : Finding) : f.excludingOne.isJudged = f.isJudged := by
  cases f <;> rfl

@[simp] theorem isDirty_excludingOne (f : Finding) : f.excludingOne.isDirty c = f.isDirty c := by
  cases f <;> rfl

/-- **What is left out does not show among the dirty rows.** -/
theorem dirtyIndex_map_excludingOne : dirtyIndex c (fs.map excludingOne) = dirtyIndex c fs := by
  have hdirty : isDirty c ∘ excludingOne = isDirty c := funext isDirty_excludingOne
  have hentries : dirtyEntries c (fs.map excludingOne) = dirtyEntries c fs := by
    rw [dirtyEntries, List.filter_map, hdirty, List.map_map]
    exact List.map_congr_left fun f _ => by cases f <;> rfl
  rw [dirtyIndex, hentries, dirtyIndex]

/-- One exclusion more on each judged row is counted as the rows are. -/
theorem stats_map_excludingOne :
    stats c (fs.map excludingOne) =
      { stats c fs with excluded := (stats c fs).excluded + (stats c fs).evaluated } := by
  have htotal : total excluded (fs.map excludingOne) = total excluded fs + fs.countP isJudged := by
    induction fs with
    | nil => rfl
    | cons f rest ih =>
      rw [List.map_cons, total, total, ih, List.countP_cons]
      cases f with
      | refused i => simp [excludingOne, excluded, isJudged]
      | judged i rs n =>
        simp only [excludingOne, excluded, isJudged, if_pos]
        omega
  simp [stats, List.countP_map, Function.comp_def, htotal]

/-- A value that is no truth value is left out, wherever it stands. -/
theorem ofValues_insert {i : Nat} {value : Value} {left right : List Value}
    (h : value.truth? = none) :
    ofValues i (left ++ value :: right) = (ofValues i (left ++ right)).excludingOne := by
  rw [ofValues, ofValues, excludingOne]
  simp [h, Nat.add_assoc]

end Finding

/-! ## The results of a row -/

namespace RowVisit

variable {v : RowVisit} {scope : Scope} {checks checks' before after : List Check} {b : Bindings}
variable {d : Check}

/-- The result of a check on a bound row, if it is enabled and has one. -/
def result? (v : RowVisit) (context : String) (b : Bindings) (c : Check) : Option Bool :=
  if c.disabled then none else (caught (c.expression.evaluate (v.rebound context c b))).truth?

/-- The results of a bound row: that of the call and those of the checks, in
their order. -/
def results (v : RowVisit) (scope : Scope) (checks : List Check) (b : Bindings) : List Bool :=
  (scope.call.toList.filterMap fun call => (caught (call.expression.evaluate b)).truth?) ++
    checks.filterMap (v.result? scope.columnName b)

/-- The results of a row are the truth values among its values. -/
theorem filterMap_values :
    (v.values scope checks b).filterMap Value.truth? = v.results scope checks b := by
  rw [values, List.filterMap_append, List.filterMap_map, checkValues, List.filterMap_map,
    List.filterMap_filter, results]
  congr 1
  refine List.filterMap_congr fun c _ => ?_
  rw [result?]
  cases c.disabled <;> rfl

/-- **Checks in another order have the same values in another order.** -/
theorem values_perm (h : checks'.Perm checks) :
    (v.values scope checks' b).Perm (v.values scope checks b) :=
  List.Perm.append_left _ ((h.filter _).map _)

theorem results_perm (h : checks'.Perm checks) :
    (v.results scope checks' b).Perm (v.results scope checks b) := by
  rw [← filterMap_values, ← filterMap_values]
  exact (values_perm h).filterMap _

theorem Answers.perm (h : checks'.Perm checks) (hanswers : v.Answers scope checks b) :
    v.Answers scope checks' b :=
  ⟨hanswers.call, fun c hc => hanswers.checks c (h.subset hc)⟩

/-- A check has a value on a bound row that is no truth value. -/
def Silent (v : RowVisit) (context : String) (b : Bindings) (d : Check) : Prop :=
  d.expression.Answers v.config (v.rebound context d b) ∧
    (caught (d.expression.evaluate (v.rebound context d b))).truth? = none

/-- An enabled check puts its value among those of the others. -/
theorem values_insert (v : RowVisit) (scope : Scope) (before after : List Check) (b : Bindings)
    (henabled : d.disabled = false) :
    ∃ left right, v.values scope (before ++ after) b = left ++ right ∧
      v.values scope (before ++ d :: after) b =
        left ++ caught (d.expression.evaluate (v.rebound scope.columnName d b)) :: right := by
  refine ⟨scope.call.toList.map (fun call => caught (call.expression.evaluate b)) ++
    v.checkValues scope.columnName before b, v.checkValues scope.columnName after b, ?_, ?_⟩
  · simp [values, checkValues]
  · simp [values, checkValues, henabled]

theorem Answers.insert_iff (hd : d.expression.Answers v.config (v.rebound scope.columnName d b)) :
    v.Answers scope (before ++ d :: after) b ↔ v.Answers scope (before ++ after) b := by
  constructor
  · intro h
    refine ⟨h.call, fun c hc => h.checks c ?_⟩
    exact (List.Sublist.append_left (List.sublist_cons_self d after) before).subset hc
  · intro h
    refine ⟨h.call, fun c hc hc' => ?_⟩
    rcases List.mem_append.mp hc with hc | hc
    · exact h.checks c (List.mem_append_left _ hc) hc'
    · rcases List.mem_cons.mp hc with rfl | hc
      · exact hd
      · exact h.checks c (List.mem_append_right _ hc) hc'

end RowVisit

/-! ## Other checks -/

namespace Metric

variable {metric : Metric} {project : Project} {tests : List RowTest} {binder : Binder}
variable {config : EvaluationConfig} {checks before after : List Check} {d : Check} {r : Encounter}

/-- The metric with other checks. -/
def withChecks (checks : List Check) (metric : Metric) : Metric :=
  metric.withRule { metric.rule with checks }

@[simp] theorem rule_withChecks :
    (metric.withChecks checks).rule = { metric.rule with checks } := rule_withRule metric _

@[simp] theorem scope_withChecks : (metric.withChecks checks).scope = metric.scope :=
  scope_withRule metric _

/-- The checks have no part in how rows are met. -/
@[simp] theorem encounters_withChecks :
    (metric.withChecks checks).encounters project tests binder =
      metric.encounters project tests binder := by
  rw [encounters, scope_withChecks, encounters]

/-- A row that is judged has the results of the call and of the checks. -/
theorem findingAt_of_bound {b : Bindings} (h : r.bindings = some b) :
    metric.findingAt project binder config r =
      .judged r.index ((r.visit project binder config).results metric.scope metric.rule.checks b)
        (((r.visit project binder config).values metric.scope metric.rule.checks b).countP
          (·.truth?.isNone)) := by
  rw [findingAt, h, ← RowVisit.filterMap_values]
  rfl

theorem findingAt_of_refused (h : r.bindings = none) :
    metric.findingAt project binder config r = .refused r.index := by
  rw [findingAt, h]

/-- **Passes with other checks end alike** if the same rows have values: both
return and are complete, or both crash and show what was shown before. -/
theorem evaluate_withChecks (hbinder : binder.ForgetsColumns)
    (hanswers : ∀ r ∈ metric.encounters project tests binder,
      (metric.withChecks checks).AnswersAt project binder config r ↔
        metric.AnswersAt project binder config r) :
    let o := metric.evaluate project tests binder config
    let o' := (metric.withChecks checks).evaluate project tests binder config
    (∃ stats stats', o.2.2 = .returned stats ∧ o'.2.2 = .returned stats' ∧
      metric.Completes project tests
        ((metric.encounters project tests binder).map (metric.findingAt project binder config))
        o.1 stats ∧
      (metric.withChecks checks).Completes project tests
        ((metric.encounters project tests binder).map
          ((metric.withChecks checks).findingAt project binder config)) o'.1 stats') ∨
    ∃ crash crash', o.2.2 = .crashed crash ∧ o'.2.2 = .crashed crash' ∧
      o'.1.rule.dirty = o.1.rule.dirty ∧ o'.1.rule.measure = o.1.rule.measure := by
  have hiff : (metric.withChecks checks).Responds project tests binder config ↔
      metric.Responds project tests binder config := by
    constructor
    · rintro ⟨hrows, htests⟩
      rw [encounters_withChecks] at hrows
      exact ⟨fun r hr => (hanswers r hr).mp (hrows r hr), htests⟩
    · rintro ⟨hrows, htests⟩
      refine ⟨fun r hr => ?_, htests⟩
      rw [encounters_withChecks] at hr
      exact (hanswers r hr).mpr (hrows r hr)
  by_cases h : metric.Responds project tests binder config
  · obtain ⟨m, events, stats, hreturned, hcompletes⟩ := evaluate_of_responds hbinder h
    obtain ⟨m', events', stats', hreturned', hcompletes'⟩ :=
      evaluate_of_responds hbinder (hiff.mpr h)
    rw [encounters_withChecks] at hcompletes'
    rw [hreturned, hreturned']
    exact .inl ⟨stats, stats', rfl, rfl, hcompletes, hcompletes'⟩
  · obtain ⟨m, events, crash, hcrashed, hdirty, hmeasure⟩ := evaluate_of_not_responds hbinder h
    obtain ⟨m', events', crash', hcrashed', hdirty', hmeasure'⟩ :=
      evaluate_of_not_responds hbinder (mt hiff.mp h)
    rw [hcrashed, hcrashed']
    rw [rule_withChecks] at hdirty' hmeasure'
    exact .inr ⟨crash, crash', rfl, rfl, hdirty'.trans hdirty.symm, hmeasure'.trans hmeasure.symm⟩

/-! ## Another order -/

/-- **Checks in another order find the same of a row**, but for the order of
its results. -/
theorem findingAt_perm (h : checks.Perm metric.rule.checks) :
    let f := metric.findingAt project binder config r
    let f' := (metric.withChecks checks).findingAt project binder config r
    f'.index = f.index ∧ f'.isJudged = f.isJudged ∧ f'.excluded = f.excluded ∧
      f'.isDirty metric.rule.combination = f.isDirty metric.rule.combination := by
  intro f f'
  cases hb : r.bindings with
  | none =>
    have hf : f = .refused r.index := findingAt_of_refused hb
    have hf' : f' = .refused r.index := findingAt_of_refused hb
    rw [hf, hf']
    exact ⟨rfl, rfl, rfl, rfl⟩
  | some b =>
    have hf : f = _ := findingAt_of_bound hb
    have hf' : f' = _ := findingAt_of_bound hb
    rw [scope_withChecks, rule_withChecks] at hf'
    rw [hf, hf']
    refine ⟨rfl, rfl, (RowVisit.values_perm h).countP_eq _, ?_⟩
    exact congrArg (true && ·)
      (metric.rule.combination.isDirty_perm (RowVisit.results_perm h))

/-- A row is dirty after a complete pass if its results are dirty. -/
theorem Completes.get?_dirty {m : Metric} {stats : PassStats} {l : List Encounter} {i : Nat}
    {rs : List Bool}
    (h : metric.Completes project tests (l.map (metric.findingAt project binder config)) m stats) :
    m.rule.dirty.get? i = some rs ↔
      ∃ r ∈ l, ∃ b, r.bindings = some b ∧ r.index = i ∧
        (r.visit project binder config).results metric.scope metric.rule.checks b = rs ∧
        metric.rule.combination.isDirty rs = true := by
  rw [h.dirty, Finding.get?_dirtyIndex h.nodup]
  constructor
  · rintro ⟨n, hmem, hdirty⟩
    obtain ⟨r, hr, hfinding⟩ := List.mem_map.mp hmem
    cases hb : r.bindings with
    | none =>
      rw [findingAt_of_refused hb] at hfinding
      cases hfinding
    | some b =>
      rw [findingAt_of_bound hb] at hfinding
      obtain ⟨hindex, hresults, -⟩ := Finding.judged.inj hfinding
      exact ⟨r, hr, b, hb, hindex, hresults, hdirty⟩
  · rintro ⟨r, hr, b, hb, rfl, rfl, hdirty⟩
    exact ⟨_, List.mem_map.mpr ⟨r, hr, findingAt_of_bound hb⟩, hdirty⟩

/-- **Checks may change places.** The same rows are dirty, with the results
of the checks in their new order, and the measure and the counters are the
same; or both passes crash. -/
theorem evaluate_perm (hbinder : binder.ForgetsColumns) (h : checks.Perm metric.rule.checks) :
    let o := metric.evaluate project tests binder config
    let o' := (metric.withChecks checks).evaluate project tests binder config
    o'.1.rule.dirty.keys = o.1.rule.dirty.keys ∧ o'.1.rule.measure = o.1.rule.measure ∧
      ((∃ stats, o.2.2 = .returned stats ∧ o'.2.2 = .returned stats ∧
        ∀ i ∈ o.1.rule.dirty.keys, ∃ r ∈ metric.encounters project tests binder,
          ∃ b, r.index = i ∧ r.bindings = some b ∧
            o.1.rule.dirty.get? i = some ((r.visit project binder config).results metric.scope
              metric.rule.checks b) ∧
            o'.1.rule.dirty.get? i = some ((r.visit project binder config).results metric.scope
              checks b)) ∨
        ∃ crash crash', o.2.2 = .crashed crash ∧ o'.2.2 = .crashed crash' ∧
          o'.1.rule.dirty = o.1.rule.dirty) := by
  intro o o'
  have hanswers : ∀ r ∈ metric.encounters project tests binder,
      (metric.withChecks checks).AnswersAt project binder config r ↔
        metric.AnswersAt project binder config r := by
    intro r _
    rw [AnswersAt, AnswersAt, scope_withChecks, rule_withChecks]
    exact ⟨fun hr b hb => (hr b hb).perm h.symm, fun hr b hb => (hr b hb).perm h⟩
  rcases evaluate_withChecks hbinder hanswers with
    ⟨stats, stats', hreturned, hreturned', hcompletes, hcompletes'⟩ |
    ⟨crash, crash', hcrashed, hcrashed', hdirty, hmeasure⟩
  · have hstats : stats' = stats := by
      rw [hcompletes'.stats, hcompletes.stats, rule_withChecks]
      exact Finding.stats_map_congr (fun r _ => (findingAt_perm h).2.1)
        (fun r _ => (findingAt_perm h).2.2.1) fun r _ => (findingAt_perm h).2.2.2
    refine ⟨?_, ?_, .inl ⟨stats, hreturned, hstats ▸ hreturned', fun i hi => ?_⟩⟩
    · rw [hcompletes'.dirty, hcompletes.dirty, rule_withChecks]
      exact Finding.keys_dirtyIndex_map_congr hcompletes'.nodup hcompletes.nodup
        (fun r _ => (findingAt_perm h).1) fun r _ => (findingAt_perm h).2.2.2
    · rw [hcompletes'.measure, hcompletes.measure, hstats]
    · obtain ⟨rs, hrs⟩ := Option.isSome_iff_exists.mp (OrderedMap.mem_keys_iff.mp hi)
      obtain ⟨r, hr, b, hb, hindex, rfl, hdirty⟩ := hcompletes.get?_dirty.mp hrs
      refine ⟨r, hr, b, hindex, hb, hrs, hcompletes'.get?_dirty.mpr ⟨r, hr, b, hb, hindex, ?_, ?_⟩⟩
      · rw [scope_withChecks, rule_withChecks]
      · rw [rule_withChecks, ← hdirty]
        exact metric.rule.combination.isDirty_perm (RowVisit.results_perm h)
  · exact ⟨congrArg OrderedMap.keys hdirty, hmeasure,
      .inr ⟨crash, crash', hcrashed, hcrashed', hdirty⟩⟩

/-! ## A check that is silent -/

/-- **A silent check is left out of each judged row**, and changes nothing
else about it. -/
theorem findingAt_insert_silent (h : metric.rule.checks = before ++ after)
    (henabled : d.disabled = false)
    (hsilent : ∀ b, r.bindings = some b →
      (r.visit project binder config).Silent metric.scope.columnName b d) :
    (metric.withChecks (before ++ d :: after)).findingAt project binder config r =
      (metric.findingAt project binder config r).excludingOne := by
  cases hb : r.bindings with
  | none => rw [findingAt_of_refused hb, findingAt_of_refused hb, Finding.excludingOne]
  | some b =>
    obtain ⟨left, right, hvalues, hinserted⟩ :=
      (r.visit project binder config).values_insert metric.scope before after b henabled
    obtain ⟨-, hnone⟩ := hsilent b hb
    rw [findingAt, findingAt, hb, scope_withChecks, rule_withChecks, h]
    simp only
    rw [hvalues, hinserted, Finding.ofValues_insert hnone]

/-- **A silent check is counted and nothing else.** The dirty rows and the
measure are the same, and of each evaluated row one result more is left out;
or both passes crash. -/
theorem evaluate_insert_silent (hbinder : binder.ForgetsColumns)
    (h : metric.rule.checks = before ++ after) (henabled : d.disabled = false)
    (hsilent : ∀ r ∈ metric.encounters project tests binder, ∀ b, r.bindings = some b →
      (r.visit project binder config).Silent metric.scope.columnName b d) :
    let o := metric.evaluate project tests binder config
    let o' := (metric.withChecks (before ++ d :: after)).evaluate project tests binder config
    o'.1.rule.dirty = o.1.rule.dirty ∧ o'.1.rule.measure = o.1.rule.measure ∧
      ((∃ stats, o.2.2 = .returned stats ∧
          o'.2.2 = .returned { stats with excluded := stats.excluded + stats.evaluated }) ∨
        ∃ crash crash', o.2.2 = .crashed crash ∧ o'.2.2 = .crashed crash') := by
  intro o o'
  have hanswers : ∀ r ∈ metric.encounters project tests binder,
      (metric.withChecks (before ++ d :: after)).AnswersAt project binder config r ↔
        metric.AnswersAt project binder config r := by
    intro r hr
    rw [AnswersAt, AnswersAt, scope_withChecks, rule_withChecks, h]
    exact forall_congr' fun b => forall_congr' fun hb =>
      RowVisit.Answers.insert_iff (hsilent r hr b hb).1
  have hfindings : (metric.encounters project tests binder).map
        ((metric.withChecks (before ++ d :: after)).findingAt project binder config) =
      ((metric.encounters project tests binder).map
        (metric.findingAt project binder config)).map Finding.excludingOne := by
    rw [List.map_map]
    exact List.map_congr_left fun r hr => findingAt_insert_silent h henabled (hsilent r hr)
  rcases evaluate_withChecks hbinder hanswers with
    ⟨stats, stats', hreturned, hreturned', hcompletes, hcompletes'⟩ |
    ⟨crash, crash', hcrashed, hcrashed', hdirty, hmeasure⟩
  · rw [hfindings] at hcompletes'
    have hstats : stats' = { stats with excluded := stats.excluded + stats.evaluated } := by
      rw [hcompletes'.stats, hcompletes.stats, rule_withChecks, Finding.stats_map_excludingOne]
    refine ⟨?_, ?_, .inl ⟨stats, hreturned, hstats ▸ hreturned'⟩⟩
    · rw [hcompletes'.dirty, hcompletes.dirty, rule_withChecks,
        Finding.dirtyIndex_map_excludingOne]
    · rw [hcompletes'.measure, hcompletes.measure, hstats]
      rfl
  · exact ⟨hdirty, hmeasure, .inr ⟨crash, crash', hcrashed, hcrashed'⟩⟩

end Metric

/-! ## Disabled checks -/

/-- The rule without its disabled checks. -/
def Rule.trimmed (r : Rule) : Rule := { r with checks := r.checks.filter (!·.disabled) }

/-- The outcome without the disabled checks. -/
def RowOutcome.trimmed (o : RowOutcome) : RowOutcome :=
  { o with checks := o.checks.filter (!·.disabled) }

@[simp] theorem Rule.enabledChecks_trimmed (r : Rule) :
    r.trimmed.enabledChecks = r.enabledChecks := by
  rw [enabledChecks, trimmed, List.countP_filter, enabledChecks]
  simp

namespace RowVisit

variable {v : RowVisit} {context : String} {scope : Scope} {checks : List Check} {b : Bindings}

theorem runChecks_trimmed :
    v.runChecks context (checks.filter (!·.disabled)) b =
      (v.runChecks context checks b).trimmed := by
  induction checks generalizing b with
  | nil => rfl
  | cons check rest ih =>
    cases hd : check.disabled with
    | true =>
      rw [List.filter_cons_of_neg (by simp [hd]), ih, runChecks_of_disabled hd]
      simp [RowOutcome.trimmed, RowOutcome.withCheck, hd]
    | false =>
      have hkeeping : (check.keeping context).disabled = false := hd
      rw [List.filter_cons_of_pos (by simp [hd])]
      cases hv : v.evaluate check.expression (v.rebound context check b) with
      | error crash =>
        rw [runChecks_of_crash hd hv, runChecks_of_crash hd hv]
        simp [RowOutcome.trimmed, hkeeping]
      | ok value =>
        rw [runChecks_of_value hd hv, runChecks_of_value hd hv, ih]
        cases value <;>
          simp [RowOutcome.trimmed, RowOutcome.withCheck, RowOutcome.withValue, hkeeping]

/-- **A row has its outcome without the disabled checks.** -/
theorem run_trimmed :
    v.run scope (checks.filter (!·.disabled)) b = (v.run scope checks b).trimmed := by
  cases hc : scope.call with
  | none => rw [run_of_no_call hc, run_of_no_call hc, runChecks_trimmed]
  | some call =>
    cases hv : v.evaluate call.expression b with
    | error crash =>
      rw [run_of_call_crash hc hv, run_of_call_crash hc hv]
      rfl
    | ok value =>
      rw [run_of_call_value hc hv, run_of_call_value hc hv, runChecks_trimmed]
      cases value <;> rfl

end RowVisit

/-- The pass of a metric without its disabled checks. -/
def Variation.trimming : Variation where
  config := id
  scope := id
  checks := List.filter (!·.disabled)

/-- **Disabled checks make no difference.** -/
theorem Variation.trimming_keeps : trimming.Keeps (fun _ => True) (fun _ => true) where
  columnName _ := rfl
  enabledChecks := Rule.enabledChecks_trimmed
  log _ _ := rfl
  run v scope checks b _ := ⟨(v.run scope checks b).events, RowVisit.run_trimmed, rfl⟩

namespace Metric

variable {metric : Metric} {project : Project} {tests : List RowTest} {binder : Binder}
variable {config : EvaluationConfig} {before after : List Check} {d : Check}

/-- The metric without its disabled checks. -/
def trimmed (metric : Metric) : Metric := metric.withRule metric.rule.trimmed

/-- A pass goes on as without the disabled checks. -/
theorem evaluate_trimmed (metric : Metric) (project : Project) (tests : List RowTest)
    (binder : Binder) (config : EvaluationConfig) :
    let o := metric.evaluate project tests binder config
    let o' := metric.trimmed.evaluate project tests binder config
    o'.1.rule = o.1.rule.trimmed ∧ o'.2 = o.2 := by
  obtain ⟨⟨rule, hleft, hleft'⟩, hevents, hending⟩ := evaluate_varied (m := metric)
    Variation.trimming_keeps (scope_withRule _ _) (rule_withRule _ _) project tests binder config
    trivial
  rw [List.filter_true, List.filter_true] at hevents
  refine ⟨?_, Prod.ext hevents hending⟩
  rw [hleft, rule_withRule, trimmed]
  exact (congrArg Metric.rule hleft').trans (rule_withRule _ _)

/-- **A disabled check is as good as none.** A pass reports the same and ends
the same way, with the same dirty rows and measure. -/
theorem evaluate_insert_disabled (h : metric.rule.checks = before ++ after)
    (hdisabled : d.disabled = true) :
    let o := metric.evaluate project tests binder config
    let o' := (metric.withChecks (before ++ d :: after)).evaluate project tests binder config
    o'.1.rule.dirty = o.1.rule.dirty ∧ o'.1.rule.measure = o.1.rule.measure ∧ o'.2 = o.2 := by
  have htrimmed : (metric.withChecks (before ++ d :: after)).trimmed = metric.trimmed := by
    rw [trimmed, rule_withChecks, Rule.trimmed, trimmed, Rule.trimmed, h, withChecks,
      withRule_withRule]
    simp [hdisabled]
  obtain ⟨hrule, hsame⟩ := evaluate_trimmed metric project tests binder config
  obtain ⟨hrule', hsame'⟩ :=
    evaluate_trimmed (metric.withChecks (before ++ d :: after)) project tests binder config
  rw [htrimmed] at hrule' hsame'
  have hrules := hrule'.symm.trans hrule
  exact ⟨congrArg (·.dirty) hrules, congrArg (·.measure) hrules, hsame'.symm.trans hsame⟩

/-- **Checks count by themselves.** Under a binder that forgets columns, such
as the plain one, where a check stands in a metric makes no difference to
another check. A pass with the checks in another order finds the same rows
dirty, with the results in the new order, the same measure and the same
counters. A pass with a disabled check put in anywhere reports the same and
ends the same way, with the same dirty rows and measure. A pass with an
enabled check put in anywhere that has a value on each row that is bound,
but no truth value, has the same dirty rows and measure, and counts one
exclusion more for each evaluated row. Where an evaluation crashes and is not
caught, or a test crashes, both passes crash and publish nothing. -/
theorem checks_count_by_themselves (metric : Metric) (project : Project) (tests : List RowTest)
    (binder : Binder) (config : EvaluationConfig) (hbinder : binder.ForgetsColumns) :
    let o := metric.evaluate project tests binder config
    (∀ checks, checks.Perm metric.rule.checks →
      let o' := (metric.withChecks checks).evaluate project tests binder config
      o'.1.rule.dirty.keys = o.1.rule.dirty.keys ∧ o'.1.rule.measure = o.1.rule.measure ∧
        ((∃ stats, o.2.2 = .returned stats ∧ o'.2.2 = .returned stats ∧
          ∀ i ∈ o.1.rule.dirty.keys, ∃ r ∈ metric.encounters project tests binder,
            ∃ b, r.index = i ∧ r.bindings = some b ∧
              o.1.rule.dirty.get? i = some ((r.visit project binder config).results metric.scope
                metric.rule.checks b) ∧
              o'.1.rule.dirty.get? i = some ((r.visit project binder config).results metric.scope
                checks b)) ∨
          ∃ crash crash', o.2.2 = .crashed crash ∧ o'.2.2 = .crashed crash' ∧
            o'.1.rule.dirty = o.1.rule.dirty)) ∧
      ∀ before after d, metric.rule.checks = before ++ after →
        let o' := (metric.withChecks (before ++ d :: after)).evaluate project tests binder config
        (d.disabled = true → o'.1.rule.dirty = o.1.rule.dirty ∧
          o'.1.rule.measure = o.1.rule.measure ∧ o'.2 = o.2) ∧
        (d.disabled = false →
          (∀ r ∈ metric.encounters project tests binder, ∀ b, r.bindings = some b →
            (r.visit project binder config).Silent metric.scope.columnName b d) →
          o'.1.rule.dirty = o.1.rule.dirty ∧ o'.1.rule.measure = o.1.rule.measure ∧
            ((∃ stats, o.2.2 = .returned stats ∧
                o'.2.2 = .returned { stats with excluded := stats.excluded + stats.evaluated }) ∨
              ∃ crash crash', o.2.2 = .crashed crash ∧ o'.2.2 = .crashed crash')) :=
  ⟨fun _ h => evaluate_perm hbinder h, fun _ _ _ h =>
    ⟨evaluate_insert_disabled h, evaluate_insert_silent hbinder h⟩⟩

end Metric

namespace Flags

/-- A check that has no value on any row. -/
def blank : Check := ⟨⟨"blank", fun _ => .ok .null⟩, none, false, none, none⟩

/-- Two rows of flags are dirty. With the checks in the other order they have
their results in the other order; a blank check between the two is left out
three times more, and a disabled one is not. -/
theorem reordered_pass :
    let o (checks : List Check) :=
      ((Metric.column metric).withChecks checks).evaluate project [notLast] Binder.plain .standard
    let raised : Check := ⟨cell, none, false, none, none⟩
    let seen : Check := ⟨cell, some "seen", false, none, none⟩
    (o [seen, raised]).1.rule.dirty.keys = [0, 1] ∧
      (o [seen, raised]).1.rule.dirty.get? 0 = some [false, true] ∧
      (o [seen, raised]).2.2 = .returned ⟨3, 3, 0, 1, 2⟩ ∧
      (o [raised, blank, seen]).1.rule.dirty.keys = [0, 1] ∧
      (o [raised, blank, seen]).2.2 = .returned ⟨3, 3, 0, 4, 2⟩ ∧
      (o [raised, blank.setDisabled true, seen]).2.2 = .returned ⟨3, 3, 0, 1, 2⟩ := by
  intro o raised seen
  have hkeys : ((Metric.column metric).evaluate project [notLast] Binder.plain
      .standard).1.rule.dirty.keys = [0, 1] := rfl
  have hreturned : ((Metric.column metric).evaluate project [notLast] Binder.plain .standard).2.2 =
      .returned ⟨3, 3, 0, 1, 2⟩ := rfl
  obtain ⟨horder, hinsert⟩ := Metric.checks_count_by_themselves (.column metric) project [notLast]
    Binder.plain .standard Binder.plain_forgetsColumns
  obtain ⟨hsame, -, hstats⟩ := horder [seen, raised] (.swap raised seen [])
  obtain ⟨-, hblank⟩ := hinsert [raised] [seen] blank rfl
  obtain ⟨hdirty, -, hcounted⟩ := hblank rfl fun r _ b _ => ⟨.inl rfl, rfl⟩
  obtain ⟨hdisabled, -⟩ := hinsert [raised] [seen] (blank.setDisabled true) rfl
  refine ⟨hsame.trans hkeys, rfl, ?_, (congrArg OrderedMap.keys hdirty).trans hkeys, ?_, ?_⟩
  · rcases hstats with ⟨stats, hstats, hordered, -⟩ | ⟨crash, -, hcrashed, -⟩
    · obtain rfl := Ending.returned.inj (hreturned.symm.trans hstats)
      exact hordered
    · cases hreturned.symm.trans hcrashed
  · rcases hcounted with ⟨stats, hstats, hblanked⟩ | ⟨crash, -, hcrashed, -⟩
    · obtain rfl := Ending.returned.inj (hreturned.symm.trans hstats)
      exact hblanked
    · cases hreturned.symm.trans hcrashed
  · exact (congrArg (·.2) (hdisabled rfl).2.2).trans hreturned

end Flags

end DataQuality
