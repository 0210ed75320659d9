import DataQuality.Rules.Compile
import Mathlib.Data.List.Forall2
/-!
# Descriptions — what a definition says about the compiled metric

A definition is compiled to a metric that it describes part by part: names,
columns and comments as they are written, checks in their order with the
meanings of their source texts, a call with its parameters. Nothing else is
in the metric (`MetricDefinition.compileIn_eq_ok_iff`,
`SpanningDefinition.compileIn_eq_ok_iff`), and it is there once the texts of
its checks and of its call have meanings.
-/

namespace DataQuality

variable {compiler : Compiler} {registry : Registry} {contexts : PartContexts}

/-- What each definition of a list describes can be listed. -/
theorem exists_forall₂ {α β : Type} {R : α → β → Prop} {l : List α} (h : ∀ a ∈ l, ∃ b, R a b) :
    ∃ l', List.Forall₂ R l l' := by
  induction l with
  | nil => exact ⟨[], .nil⟩
  | cons a rest ih =>
    obtain ⟨ha, hrest⟩ := List.forall_mem_cons.mp h
    obtain ⟨b, hb⟩ := ha
    obtain ⟨bs, hbs⟩ := ih hrest
    exact ⟨b :: bs, .cons hb hbs⟩

/-! ## Checks -/

/-- The check that a definition describes is shown as it is written, has the
meaning of its source text and keeps no column yet. -/
structure CheckDefinition.Describes (compiler : Compiler) (d : CheckDefinition) (check : Check) :
    Prop where
  definition : check.definition = d
  meaning : compiler d.expression = .ok check.expression.evaluate
  kept : check.kept = none

/-- The source text has a meaning. -/
def CheckDefinition.Compiles (compiler : Compiler) (d : CheckDefinition) : Prop :=
  ∃ evaluate, compiler d.expression = .ok evaluate

theorem CheckDefinition.Compiles.exists_describes {d : CheckDefinition} (h : d.Compiles compiler) :
    ∃ check, d.Describes compiler check := by
  obtain ⟨evaluate, hmeaning⟩ := h
  exact ⟨⟨⟨d.expression, evaluate⟩, d.column, d.disabled, d.comment, none⟩, rfl, hmeaning, rfl⟩

namespace Check

theorem compile_eq_ok_iff {d : CheckDefinition} {check : Check} :
    compile compiler d = .ok check ↔ d.Describes compiler check := by
  rw [compile, Expression.compile]
  constructor
  · intro h
    cases hmeaning : compiler d.expression with
    | error fault =>
      rw [hmeaning] at h
      cases h
    | ok evaluate =>
      rw [hmeaning] at h
      cases h
      exact ⟨rfl, hmeaning, rfl⟩
  · rintro ⟨rfl, hmeaning, hkept⟩
    rw [hmeaning, definition, ← hkept]

/-- **Checks are compiled one by one**, in the order of their definitions. -/
theorem compileAll_eq_ok_iff {ds : List CheckDefinition} {checks : List Check} :
    compileAll compiler ds = .ok checks ↔
      List.Forall₂ (CheckDefinition.Describes compiler) ds checks := by
  induction ds generalizing checks with
  | nil =>
    rw [compileAll, List.forall₂_nil_left_iff, Except.ok.injEq, eq_comm]
  | cons d rest ih =>
    rw [compileAll, List.forall₂_cons_left_iff]
    constructor
    · intro h
      cases hcheck : compile compiler d with
      | error fault =>
        rw [hcheck] at h
        cases h
      | ok check =>
        cases hrest : compileAll compiler rest with
        | error fault =>
          rw [hcheck, hrest] at h
          cases h
        | ok others =>
          rw [hcheck, hrest] at h
          cases h
          exact ⟨check, others, compile_eq_ok_iff.mp hcheck, ih.mp hrest, rfl⟩
    · rintro ⟨check, others, hcheck, hrest, rfl⟩
      rw [compile_eq_ok_iff.mpr hcheck, ih.mpr hrest]

end Check

/-! ## Column metrics -/

/-- What a definition of either kind says about the rule of its metric. The
rule has found nothing yet. -/
structure Rule.Says (compiler : Compiler) (name : String) (description : Option String)
    (combination : Combination) (checks : List CheckDefinition) (rule : Rule) : Prop where
  name : rule.name = name
  description : rule.description = description
  combination : rule.combination = combination
  checks : List.Forall₂ (CheckDefinition.Describes compiler) checks rule.checks
  dirty : rule.dirty = OrderedMap.empty
  measure : rule.measure = none

/-- The column metric that a definition describes. -/
structure MetricDefinition.Describes (compiler : Compiler) (d : MetricDefinition)
    (m : ColumnMetric) : Prop where
  column : m.column = d.column
  rule : m.rule.Says compiler d.name d.description d.combination d.checks

/-- The source texts of all checks have meanings. -/
def MetricDefinition.Compiles (compiler : Compiler) (d : MetricDefinition) : Prop :=
  ∀ check ∈ d.checks, check.Compiles compiler

namespace MetricDefinition

variable {d : MetricDefinition} {m : ColumnMetric}

/-- **A column metric is compiled to what its definition describes**. -/
theorem compileIn_eq_ok_iff : d.compileIn contexts compiler = .ok m ↔ d.Describes compiler m := by
  rw [compileIn]
  constructor
  · intro h
    cases hchecks : Check.compileAll compiler d.checks with
    | error fault =>
      rw [hchecks] at h
      cases h
    | ok checks =>
      rw [hchecks] at h
      cases h
      exact ⟨rfl, rfl, rfl, rfl, Check.compileAll_eq_ok_iff.mp hchecks, rfl, rfl⟩
  · intro h
    obtain ⟨⟨name, description, checks, combination, dirty, measure⟩, column⟩ := m
    obtain ⟨rfl, rfl, rfl, rfl, hchecks, rfl, rfl⟩ := h
    rw [Check.compileAll_eq_ok_iff.mpr hchecks]

theorem Compiles.exists_describes (h : d.Compiles compiler) : ∃ m, d.Describes compiler m := by
  obtain ⟨checks, hchecks⟩ := exists_forall₂ fun check hcheck => (h check hcheck).exists_describes
  exact ⟨⟨⟨d.name, d.description, checks, d.combination, OrderedMap.empty, none⟩, d.column⟩,
    rfl, rfl, rfl, rfl, hchecks, rfl, rfl⟩

end MetricDefinition

/-! ## Spanning metrics -/

/-- The call that a definition describes on some columns. It is known by the
name of its function, which is registered, and has the parameters of the
definition, or those of the function if it has none; its meaning is that of
the text the function writes. -/
def FunctionDefinition.Describes (registry : Registry) (columns : List String)
    (d : FunctionDefinition) (call : SpanningCall) : Prop :=
  ∃ f, registry.get? d.name = some f ∧ call.function = d.name ∧
    call.params = d.params.getD f.defaultParams ∧
    call.expression.source = f.invocation columns d.params ∧
    registry.compiler call.expression.source = .ok call.expression.evaluate

/-- The function is registered, and the text of its call has a meaning. -/
def FunctionDefinition.Compiles (registry : Registry) (columns : List String)
    (d : FunctionDefinition) : Prop :=
  ∃ f evaluate, registry.get? d.name = some f ∧
    registry.compiler (f.invocation columns d.params) = .ok evaluate

/-- The spanning metric that a definition describes. -/
structure SpanningDefinition.Describes (compiler : Compiler) (registry : Registry)
    (d : SpanningDefinition) (m : SpanningMetric) : Prop where
  columns : m.columns = d.columns
  call : Option.Rel (FunctionDefinition.Describes registry d.columns) d.function m.call
  rule : m.rule.Says compiler d.name d.description d.combination d.checks

/-- The call of the function and the source texts of all checks have
meanings. -/
structure SpanningDefinition.Compiles (compiler : Compiler) (registry : Registry)
    (d : SpanningDefinition) : Prop where
  call : ∀ function ∈ d.function, function.Compiles registry d.columns
  checks : ∀ check ∈ d.checks, check.Compiles compiler

theorem FunctionDefinition.compileIn_eq_ok_iff {d : FunctionDefinition} {columns : List String}
    {call : SpanningCall} : d.compileIn contexts columns registry = .ok call ↔
      d.Describes registry columns call := by
  rw [compileIn, Registry.require]
  cases hf : registry.get? d.name with
  | none =>
    constructor
    · exact nofun
    · rintro ⟨f, hf', -⟩
      rw [hf] at hf'
      cases hf'
  | some f =>
    have hname : f.name = d.name := registry.named hf
    simp only [SpanningFunction.compileCall, Expression.compile]
    constructor
    · intro h
      cases hmeaning : registry.compiler (f.invocation columns d.params) with
      | error fault =>
        rw [hmeaning] at h
        cases h
      | ok evaluate =>
        rw [hmeaning] at h
        cases h
        exact ⟨f, hf, hname, rfl, rfl, hmeaning⟩
    · rintro ⟨f', hf', hfunction, hparams, hsource, hmeaning⟩
      rw [hf, Option.some.injEq] at hf'
      subst hf'
      obtain ⟨function, params, source, evaluate⟩ := call
      simp only at hfunction hparams hsource hmeaning
      rw [hsource] at hmeaning
      rw [hmeaning, hfunction, hparams, hsource, hname]
      rfl

theorem FunctionDefinition.Compiles.exists_describes {d : FunctionDefinition}
    {columns : List String} (h : d.Compiles registry columns) :
    ∃ call, d.Describes registry columns call := by
  obtain ⟨f, evaluate, hf, hmeaning⟩ := h
  exact ⟨⟨d.name, d.params.getD f.defaultParams, f.invocation columns d.params, evaluate⟩,
    f, hf, rfl, rfl, rfl, hmeaning⟩

namespace SpanningDefinition

variable {d : SpanningDefinition} {m : SpanningMetric}

theorem compileCallIn_eq_ok_iff {call : Option SpanningCall} :
    d.compileCallIn contexts registry = .ok call ↔
      Option.Rel (FunctionDefinition.Describes registry d.columns) d.function call := by
  rw [compileCallIn]
  cases hfunction : d.function with
  | none =>
    constructor
    · intro h
      cases h
      exact .none
    · intro h
      cases h
      rfl
  | some function =>
    dsimp only
    constructor
    · intro h
      cases hcall : function.compileIn contexts d.columns registry with
      | error fault =>
        rw [hcall] at h
        cases h
      | ok c =>
        rw [hcall] at h
        cases h
        exact .some (FunctionDefinition.compileIn_eq_ok_iff.mp hcall)
    · intro h
      cases h with
      | some hcall => rw [FunctionDefinition.compileIn_eq_ok_iff.mpr hcall]

/-- **A spanning metric is compiled to what its definition describes**. -/
theorem compileIn_eq_ok_iff : d.compileIn contexts compiler registry = .ok m ↔
    d.Describes compiler registry m := by
  rw [compileIn]
  constructor
  · intro h
    cases hcall : d.compileCallIn contexts registry with
    | error fault =>
      rw [hcall] at h
      cases h
    | ok call =>
      cases hchecks : Check.compileAll compiler d.checks with
      | error fault =>
        rw [hcall, hchecks] at h
        cases h
      | ok checks =>
        rw [hcall, hchecks] at h
        cases h
        exact ⟨rfl, compileCallIn_eq_ok_iff.mp hcall, rfl, rfl, rfl,
          Check.compileAll_eq_ok_iff.mp hchecks, rfl, rfl⟩
  · intro h
    obtain ⟨⟨name, description, checks, combination, dirty, measure⟩, columns, call⟩ := m
    obtain ⟨rfl, hcall, rfl, rfl, rfl, hchecks, rfl, rfl⟩ := h
    rw [compileCallIn_eq_ok_iff.mpr hcall, Check.compileAll_eq_ok_iff.mpr hchecks]

theorem Compiles.exists_describes (h : d.Compiles compiler registry) :
    ∃ m, d.Describes compiler registry m := by
  have hcall : ∃ call, Option.Rel (FunctionDefinition.Describes registry d.columns)
      d.function call := by
    cases hfunction : d.function with
    | none => exact ⟨none, .none⟩
    | some function =>
      obtain ⟨call, hdescribes⟩ := (h.call function hfunction).exists_describes
      exact ⟨some call, .some hdescribes⟩
  obtain ⟨call, hcall⟩ := hcall
  obtain ⟨checks, hchecks⟩ := exists_forall₂ fun check hcheck =>
    (h.checks check hcheck).exists_describes
  exact ⟨⟨⟨d.name, d.description, checks, d.combination, OrderedMap.empty, none⟩, d.columns, call⟩,
    rfl, hcall, rfl, rfl, rfl, hchecks, rfl, rfl⟩

end SpanningDefinition

end DataQuality
