import DataQuality.Rows
/-!
# Simulation — two visitors side by side

Two visitors mirror each other when related states stay related call by
call, and each call has the same result in both. A traversal then ends the
same way with both, in related states (`Mirrors.traverse`). Their events
are compared as far as one is interested in them.
-/

namespace DataQuality

namespace Visitor

variable {σ τ ρ : Type} {R : σ → τ → Prop} {keep : Event → Bool} {v : Visitor σ} {w : Visitor τ}

/-- Two calls come to the same: they leave related states, report the same
of the events that are kept, and have one result. -/
structure Agree (R : σ → τ → Prop) (keep : Event → Bool) (o : σ × List Event × ρ)
    (o' : τ × List Event × ρ) : Prop where
  state : R o.1 o'.1
  events : o'.2.1.filter keep = o.2.1.filter keep
  result : o'.2.2 = o.2.2

/-- Where all events are kept, what is reported is the same. -/
theorem Agree.snd_eq {o : σ × List Event × ρ} {o' : τ × List Event × ρ}
    (h : Agree R (fun _ => true) o o') : o'.2 = o.2 := by
  have hall : ∀ events : List Event, events.filter (fun _ => true) = events :=
    fun events => List.filter_eq_self.mpr fun _ _ => rfl
  have hevents := h.events
  rw [hall, hall] at hevents
  exact Prod.ext hevents h.result

/-- Every call on related states comes to the same. -/
structure Mirrors (R : σ → τ → Prop) (keep : Event → Bool) (v : Visitor σ) (w : Visitor τ) :
    Prop where
  start : ∀ s t, R s t → ∀ project, Agree R keep (v.start s project) (w.start t project)
  visit : ∀ s t, R s t → ∀ project index row,
    Agree R keep (v.visit s project index row) (w.visit t project index row)
  finish : ∀ s t, R s t → ∀ project, Agree R keep (v.finish s project) (w.finish t project)

variable {s : σ} {t : τ}

/-- **Related visitors are shown the same rows**, and crash alike. -/
theorem Mirrors.showRows (h : Mirrors R keep v w) (tests : List RowTest) (project : Project)
    (index : Nat) (rows : List Row) (hst : R s t) :
    R (v.showRows tests project index rows s).state (w.showRows tests project index rows t).state ∧
      (w.showRows tests project index rows t).events.filter keep =
        (v.showRows tests project index rows s).events.filter keep ∧
      (w.showRows tests project index rows t).accepted =
        (v.showRows tests project index rows s).accepted ∧
      (w.showRows tests project index rows t).crash =
        (v.showRows tests project index rows s).crash := by
  induction rows generalizing index s t with
  | nil => exact ⟨hst, rfl, rfl, rfl⟩
  | cons row rest ih =>
    rw [Visitor.showRows, Visitor.showRows]
    -- The tests know nothing of the visitor, so both are asked the same.
    cases RowTest.all project index row tests with
    | mk tested answer =>
      cases answer with
      | error crash => exact ⟨hst, rfl, rfl, rfl⟩
      | ok answer =>
        cases answer with
        | false =>
          obtain ⟨hstate, hevents, haccepted, hcrash⟩ := ih (index + 1) hst
          refine ⟨hstate, ?_, haccepted, hcrash⟩
          simp only [List.filter_append, hevents]
        | true =>
          obtain ⟨hstate, hevents, hresult⟩ := h.visit s t hst project index row
          generalize v.visit s project index row = o at hstate hevents hresult
          generalize w.visit t project index row = o' at hstate hevents hresult
          obtain ⟨s', more, result⟩ := o
          obtain ⟨t', more', result'⟩ := o'
          obtain rfl : result' = result := hresult
          replace hevents : more'.filter keep = more.filter keep := hevents
          cases result' with
          | error crash =>
            refine ⟨hstate, ?_, rfl, rfl⟩
            simp only [List.filter_append, hevents]
          | ok control =>
            cases control with
            | stop =>
              refine ⟨hstate, ?_, rfl, rfl⟩
              simp only [List.filter_append, hevents]
            | proceed =>
              obtain ⟨hstate', hevents', haccepted, hcrash⟩ := ih (index + 1) hstate
              refine ⟨hstate', ?_, congrArg (· + 1) haccepted, hcrash⟩
              simp only [List.filter_append, hevents, hevents']

/-- **Related visitors are taken through a project alike.** -/
theorem Mirrors.traverse (h : Mirrors R keep v w) (hst : R s t) (tests : List RowTest)
    (project : Project) :
    Agree R keep (v.traverse tests project s) (w.traverse tests project t) := by
  rw [Visitor.traverse, Visitor.traverse]
  obtain ⟨hstate, hevents, hresult⟩ := h.start s t hst project
  generalize v.start s project = o at hstate hevents hresult
  generalize w.start t project = o' at hstate hevents hresult
  obtain ⟨s', started, result⟩ := o
  obtain ⟨t', started', result'⟩ := o'
  obtain rfl : result' = result := hresult
  cases result' with
  | error fault => exact ⟨hstate, hevents, rfl⟩
  | ok _ =>
    obtain ⟨hshown, hreported, haccepted, hcrash⟩ :=
      h.showRows tests project 0 project.rows hstate
    simp only at hshown hreported haccepted hcrash ⊢
    generalize v.showRows tests project 0 project.rows s' = o at hshown hreported haccepted hcrash
    generalize w.showRows tests project 0 project.rows t' = o' at hshown hreported haccepted hcrash
    obtain ⟨s'', shown, accepted, crash⟩ := o
    obtain ⟨t'', shown', accepted', crash'⟩ := o'
    obtain rfl : accepted' = accepted := haccepted
    obtain rfl : crash' = crash := hcrash
    replace hevents : started'.filter keep = started.filter keep := hevents
    replace hreported : shown'.filter keep = shown.filter keep := hreported
    cases crash' with
    | some crash =>
      refine ⟨hshown, ?_, rfl⟩
      simp only [List.filter_append, hevents, hreported]
    | none =>
      obtain ⟨hfinish, hmore, hending⟩ := h.finish s'' t'' hshown project
      refine ⟨hfinish, ?_, congrArg Ending.ofExcept hending⟩
      simp only [List.filter_append, List.filter_cons, hevents, hreported, hmore]

end Visitor

end DataQuality
