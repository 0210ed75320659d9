import DataQuality.Function.Registry
import DataQuality.Function.Stock
import DataQuality.Proofs.OrderedMap
import Mathlib.Data.List.Basic
/-!
# Registration — what a name means never changes

Several clients work with one registry. Each asks what it has to ask in an order of its
own, and the clients take turns in any way; a request is answered before the next one
is heard (`Run`). What a registry holds is told by its history: the functions that it
began with and those whose registration was granted (`Run.entries_perm`). All three
ways to read it follow from that, and so does the rule that the first function of a
name stays (`first_registration_stands`).
-/

namespace DataQuality

namespace Registry

/-! ## Requests -/

/-- What a client asks of a registry. -/
inductive Request where
  | register (f : SpanningFunction)
  | get (name : String)
  | require (name : String)
  | descriptors

/-- What a registry answers. -/
inductive Answer where
  | registered (outcome : Except Fault Unit)
  | got (found : Option SpanningFunction)
  | required (outcome : Except Fault SpanningFunction)
  | described (descriptors : OrderedMap String Descriptor)

/-- The registry after a request, and its answer. -/
def perform (r : Registry) : Request → Registry × Answer
  | .register f =>
    match r.register f with
    | .ok r' => (r', .registered (.ok ()))
    | .error fault => (r, .registered (.error fault))
  | .get name => (r, .got (r.get? name))
  | .require name => (r, .required (r.require name))
  | .descriptors => (r, .described r.descriptors)

/-- The fault of a name that is not free. -/
def taken (name : String) : Fault :=
  .configuration ("Function '" ++ name ++ "' is already registered")

variable {r : Registry} {f : SpanningFunction} {name : String}

theorem get?_insert (r : Registry) (f : SpanningFunction) (name : String) :
    (r.insert f).get? name = if f.name = name then some f else r.get? name :=
  OrderedMap.get?_insert r.functions f.name name f

theorem register_of_free (h : r.get? f.name = none) : r.register f = .ok (r.insert f) := by
  have hcontains : r.functions.contains f.name = false := Option.isSome_eq_false_iff.mpr (by
    rw [get?] at h
    rw [h]
    rfl)
  rw [register, hcontains]
  rfl

theorem register_of_taken (h : (r.get? f.name).isSome) : r.register f = .error (taken f.name) :=
  if_pos h

theorem require_eq_ok_iff : r.require name = .ok f ↔ r.get? name = some f := by
  rw [require]
  cases r.get? name <;> simp

theorem require_eq_error_iff :
    r.require name = .error (.unknownFunction name) ↔ r.get? name = none := by
  rw [require]
  cases r.get? name <;> simp

theorem require_fault {fault : Fault} (h : r.require name = .error fault) :
    fault = .unknownFunction name := by
  rw [require] at h
  cases hget : r.get? name with
  | none =>
    rw [hget] at h
    exact (Except.error.inj h).symm
  | some f =>
    rw [hget] at h
    cases h

/-! ## Clients in turns -/

/-- A request of a client, and how it was answered. -/
structure Event (ι : Type) where
  client : ι
  request : Request
  answer : Answer

/-- A registry, and what its clients have yet to ask of it. -/
structure Desk (ι : Type) where
  registry : Registry
  pending : ι → List Request

variable {ι : Type} {s s' u u' : Desk ι} {e : Event ι} {events before : List (Event ι)}

/-- One client asks what it has to ask next, and is answered. -/
structure Serves (s : Desk ι) (e : Event ι) (s' : Desk ι) : Prop where
  client : s.pending e.client = e.request :: s'.pending e.client
  others : ∀ c, c ≠ e.client → s'.pending c = s.pending c
  answer : s.registry.perform e.request = (s'.registry, e.answer)

/-- Requests that are answered one after another, of clients in any turns. -/
inductive Run : Desk ι → List (Event ι) → Desk ι → Prop
  | nil (s : Desk ι) : Run s [] s
  | cons {s u s' : Desk ι} {e : Event ι} {events : List (Event ι)} :
      Serves s e u → Run u events s' → Run s (e :: events) s'

/-- A client that has something to ask can always be served next. -/
theorem exists_serves {c : ι} {request : Request} {rest : List Request}
    (h : s.pending c = request :: rest) :
    ∃ e s', e.client = c ∧ e.request = request ∧ Serves s e s' := by
  classical
  refine ⟨⟨c, request, (s.registry.perform request).2⟩,
    ⟨(s.registry.perform request).1, Function.update s.pending c rest⟩, rfl, rfl, ?_, ?_, rfl⟩
  · simp [h]
  · intro c' hc'
    exact Function.update_of_ne hc' rest s.pending

section Turns

variable [DecidableEq ι]

/-- What a client has asked and has yet to ask is what it had to ask at the start, in its
own order. -/
theorem Run.pending_eq (h : Run s events s') (c : ι) :
    s.pending c = (events.filter (·.client = c)).map Event.request ++ s'.pending c := by
  induction h with
  | nil s => rfl
  | @cons s u s' e events hserves _ ih =>
    by_cases hc : e.client = c
    · subst hc
      rw [hserves.client, ih, List.filter_cons_of_pos (by simp)]
      rfl
    · rw [← hserves.others c (Ne.symm hc), ih, List.filter_cons_of_neg (by simpa using hc)]

/-- **Every interleaving is a run**: in whatever turns the clients ask what they have to
ask, all of it is answered. -/
theorem exists_run (turns : List (ι × Request))
    (h : ∀ c, s.pending c = (turns.filter (·.1 = c)).map Prod.snd) :
    ∃ events s', Run s events s' ∧ events.map (fun e => (e.client, e.request)) = turns := by
  induction turns generalizing s with
  | nil => exact ⟨[], s, .nil s, rfl⟩
  | cons turn turns ih =>
    obtain ⟨c, request⟩ := turn
    have hfirst : s.pending c = request :: (turns.filter (·.1 = c)).map Prod.snd := by
      rw [h, List.filter_cons_of_pos (by simp)]
      rfl
    obtain ⟨e, u, rfl, rfl, hserves⟩ := exists_serves hfirst
    have hrest : ∀ c, u.pending c = (turns.filter (·.1 = c)).map Prod.snd := by
      intro c
      by_cases hc : c = e.client
      · subst hc
        exact (List.cons.inj (hserves.client.symm.trans hfirst)).2
      · rw [hserves.others c hc, h, List.filter_cons_of_neg (by simpa using Ne.symm hc)]
    obtain ⟨events, s', hrun, hturns⟩ := ih hrest
    exact ⟨e :: events, s', .cons hserves hrun, by rw [List.map_cons, hturns]⟩

end Turns

/-! ## A step -/

/-- **What a request can do**: a registration under a free name is granted and adds the
function, one under a name that is taken is refused, and all else is answered by what
is held. Only the first of these changes the registry. -/
theorem Serves.cases (h : Serves u e u') :
    (∃ f, e.request = .register f ∧ u.registry.get? f.name = none ∧
      e.answer = .registered (.ok ()) ∧ u'.registry = u.registry.insert f) ∨
    u'.registry = u.registry ∧
      ((∃ f, e.request = .register f ∧ (u.registry.get? f.name).isSome ∧
        e.answer = .registered (.error (taken f.name))) ∨
      (∃ name, e.request = .get name ∧ e.answer = .got (u.registry.get? name)) ∨
      (∃ name, e.request = .require name ∧ e.answer = .required (u.registry.require name)) ∨
      (e.request = .descriptors ∧ e.answer = .described u.registry.descriptors)) := by
  have hanswer := h.answer
  cases hrequest : e.request with
  | register f =>
    rw [hrequest, perform] at hanswer
    cases hget : u.registry.get? f.name with
    | none =>
      rw [register_of_free hget] at hanswer
      obtain ⟨hregistry, hanswer⟩ := Prod.mk.inj hanswer
      exact .inl ⟨f, rfl, hget, hanswer.symm, hregistry.symm⟩
    | some g =>
      have hsome : (u.registry.get? f.name).isSome := by
        rw [hget]
        rfl
      rw [register_of_taken hsome] at hanswer
      obtain ⟨hregistry, hanswer⟩ := Prod.mk.inj hanswer
      exact .inr ⟨hregistry.symm, .inl ⟨f, rfl, hsome, hanswer.symm⟩⟩
  | get name =>
    rw [hrequest] at hanswer
    obtain ⟨hregistry, hanswer⟩ := Prod.mk.inj hanswer
    exact .inr ⟨hregistry.symm, .inr (.inl ⟨name, rfl, hanswer.symm⟩)⟩
  | require name =>
    rw [hrequest] at hanswer
    obtain ⟨hregistry, hanswer⟩ := Prod.mk.inj hanswer
    exact .inr ⟨hregistry.symm, .inr (.inr (.inl ⟨name, rfl, hanswer.symm⟩))⟩
  | descriptors =>
    rw [hrequest] at hanswer
    obtain ⟨hregistry, hanswer⟩ := Prod.mk.inj hanswer
    exact .inr ⟨hregistry.symm, .inr (.inr (.inr ⟨rfl, hanswer.symm⟩))⟩

/-! ## What a history tells

A registry is told by its history in two ways. One reads the answers: what it holds is
what it began with and what was granted. The other does not: under each name stands
the first function that anyone asked to be registered there.
-/

/-- The function whose registration a client asked for. -/
def Event.asked? (e : Event ι) : Option SpanningFunction :=
  match e.request with
  | .register f => some f
  | _ => none

/-- The function whose registration was granted. -/
def Event.granted? (e : Event ι) : Option SpanningFunction :=
  match e.request, e.answer with
  | .register f, .registered (.ok ()) => some f
  | _, _ => none

/-- The functions that are registered after a history: those that the registry began
with, and those whose registration was granted. -/
def registered (start : Registry) (history : List (Event ι)) : List SpanningFunction :=
  start.functions.values ++ history.filterMap Event.granted?

/-- The first function of a name: what the registry began with under it, or else the
first one of that name that a client asked to register. -/
def first (start : Registry) (history : List (Event ι)) (name : String) :
    Option SpanningFunction :=
  (start.get? name).or ((history.filterMap Event.asked?).find? fun f => f.name = name)

/-- The entry of a function in a registry. -/
def entry (f : SpanningFunction) : String × SpanningFunction := (f.name, f)

theorem entries_eq (r : Registry) : r.functions.entries = r.functions.values.map entry := by
  rw [OrderedMap.values, List.map_map]
  refine List.map_id _ |>.symm.trans (List.map_congr_left fun e he => ?_)
  exact Prod.ext (r.named (OrderedMap.mem_entries_iff.mp he)).symm rfl

/-- A step grants what is asked for under a free name, or it changes nothing and what
may have been asked for stands under a name that is taken. -/
theorem Serves.granted_or_kept (h : Serves u e u') :
    (∃ f, e.asked? = some f ∧ e.granted? = some f ∧ u.registry.get? f.name = none ∧
      u'.registry = u.registry.insert f) ∨
    (e.granted? = none ∧ u'.registry = u.registry ∧
      ∀ f, e.asked? = some f → (u.registry.get? f.name).isSome) := by
  rw [Event.asked?, Event.granted?]
  obtain ⟨f, hrequest, hfree, hanswer, hregistry⟩ | ⟨hregistry, hkept⟩ := h.cases
  · rw [hrequest, hanswer]
    exact .inl ⟨f, rfl, rfl, hfree, hregistry⟩
  · right
    obtain ⟨f, hrequest, htaken, hanswer⟩ | ⟨_, hrequest, -⟩ | ⟨_, hrequest, -⟩ | ⟨hrequest, -⟩ :=
      hkept
    · rw [hrequest, hanswer]
      exact ⟨rfl, hregistry, fun g hg => Option.some.inj hg ▸ htaken⟩
    all_goals rw [hrequest]; exact ⟨rfl, hregistry, nofun⟩

/-- A step adds the entry that it grants. -/
theorem Serves.entries_perm (h : Serves u e u') : u'.registry.functions.entries.Perm
    (u.registry.functions.entries ++ (e.granted?.toList.map entry)) := by
  obtain ⟨f, -, hgranted, hfree, hregistry⟩ | ⟨hgranted, hregistry, -⟩ := h.granted_or_kept
  · rw [hregistry, hgranted]
    exact (OrderedMap.insertEntry_perm hfree).trans (List.perm_append_singleton _ _).symm
  · rw [hregistry, hgranted]
    exact (List.append_nil _).symm ▸ .refl _

/-- **A registry holds what it began with and what was granted**, one entry for each. -/
theorem Run.entries_perm (h : Run s events s') : s'.registry.functions.entries.Perm
    ((registered s.registry events).map entry) := by
  induction h with
  | nil s => rw [registered, List.filterMap_nil, List.append_nil, ← entries_eq]
  | cons hserves _ ih =>
    rw [registered, List.map_append, ← entries_eq, List.filterMap_eq_flatMap_toList] at ih ⊢
    rw [List.flatMap_cons, List.map_append, ← List.append_assoc]
    exact ih.trans (hserves.entries_perm.append_right _)

/-- A step changes no name that is taken, and a free one by the function that is asked
to be registered under it. -/
theorem Serves.get? (h : Serves u e u') : u'.registry.get? name =
    (u.registry.get? name).or (e.asked?.toList.find? fun f => f.name = name) := by
  obtain ⟨f, hasked, -, hfree, hregistry⟩ | ⟨-, hregistry, htaken⟩ := h.granted_or_kept
  · rw [hregistry, hasked, get?_insert]
    by_cases hname : f.name = name
    · rw [← hname, hfree]
      simp
    · simp [hname]
  · rw [hregistry]
    cases hasked : e.asked? with
    | none => exact Option.or_none.symm
    | some f =>
      by_cases hname : f.name = name
      · obtain ⟨g, hg⟩ := Option.isSome_iff_exists.mp (htaken f hasked)
        rw [← hname, hg]
        rfl
      · simp [hname]

/-- **The first of a name stays**: no answer has to be known to tell what is found. -/
theorem Run.get? (h : Run s events s') : s'.registry.get? name = first s.registry events name := by
  induction h with
  | nil s => exact Option.or_none.symm
  | cons hserves _ ih =>
    rw [ih, first, first, hserves.get?, List.filterMap_eq_flatMap_toList,
      List.filterMap_eq_flatMap_toList, List.flatMap_cons, List.find?_append, Option.or_assoc]

/-- What is found is what was registered under the name. -/
theorem Run.get?_eq_some_iff (h : Run s events s') :
    s'.registry.get? name = some f ↔ f ∈ registered s.registry events ∧ f.name = name := by
  rw [Registry.get?, ← OrderedMap.mem_entries_iff, h.entries_perm.mem_iff, List.mem_map]
  constructor
  · rintro ⟨g, hg, he⟩
    obtain ⟨hname, rfl⟩ := Prod.mk.inj he
    exact ⟨hg, hname⟩
  · rintro ⟨hf, rfl⟩
    exact ⟨f, hf, rfl⟩

theorem Run.get?_eq_none_iff (h : Run s events s') :
    s'.registry.get? name = none ↔ ∀ g ∈ registered s.registry events, g.name ≠ name := by
  rw [Option.eq_none_iff_forall_ne_some]
  exact forall_congr' fun g => by rw [ne_eq, h.get?_eq_some_iff, not_and]

/-- What is found once is found from then on. -/
theorem Run.get?_of_some (h : Run s events s') (hfound : s.registry.get? name = some f) :
    s'.registry.get? name = some f := by
  rw [h.get?, first, hfound]
  rfl

/-! ## Answers -/

/-- The client looked a name up, in one of the two ways. -/
def Event.LooksUp (e : Event ι) (name : String) : Prop :=
  e.request = .get name ∨ e.request = .require name

/-- The client looked a name up and was given a function. -/
def Event.Finds (e : Event ι) (name : String) (f : SpanningFunction) : Prop :=
  e.request = .get name ∧ e.answer = .got (some f) ∨
    e.request = .require name ∧ e.answer = .required (.ok f)

theorem Event.Finds.looksUp (h : e.Finds name f) : e.LooksUp name :=
  h.imp And.left And.left

/-- Both ways to look a name up give what the registry holds under it. -/
theorem Serves.finds_iff (h : Serves u e u') (hlooks : e.LooksUp name) :
    e.Finds name f ↔ u.registry.get? name = some f := by
  have hanswer : (u.registry.perform e.request).2 = e.answer := by rw [h.answer]
  rw [Event.Finds, ← hanswer]
  obtain hrequest | hrequest := hlooks
  · simp [hrequest, perform]
  · simp [hrequest, perform, require_eq_ok_iff]

/-- A look-up changes nothing. -/
theorem Serves.registry_of_looksUp (h : Serves u e u') (hlooks : e.LooksUp name) :
    u'.registry = u.registry := by
  have hregistry : (u.registry.perform e.request).1 = u'.registry := by rw [h.answer]
  rw [← hregistry]
  obtain hrequest | hrequest := hlooks <;> rw [hrequest] <;> rfl

/-- What a name was found to be, it is found to be by every later look-up. -/
theorem Serves.finds_again {between : List (Event ι)} {e' : Event ι} {v v' : Desk ι}
    (h : Serves u e u') (hrun : Run u' between v) (h' : Serves v e' v')
    (hfinds : e.Finds name f) (hlooks : e'.LooksUp name) : e'.Finds name f := by
  have hfound := (h.finds_iff hfinds.looksUp).mp hfinds
  rw [← h.registry_of_looksUp hfinds.looksUp] at hfound
  exact (h'.finds_iff hlooks).mpr (hrun.get?_of_some hfound)

/-- A registration is granted just when its name is free, and one that is not granted
is refused for its name and changes nothing. -/
theorem Serves.register_iff (h : Serves u e u') (hrequest : e.request = .register f) :
    (e.answer = .registered (.ok ()) ↔ u.registry.get? f.name = none) ∧
      (e.answer ≠ .registered (.ok ()) →
        e.answer = .registered (.error (taken f.name)) ∧ u'.registry = u.registry) := by
  obtain ⟨g, hg, hfree, hanswer, -⟩ | ⟨hregistry, hkept⟩ := h.cases
  · obtain rfl : g = f := Request.register.inj (hg.symm.trans hrequest)
    exact ⟨iff_of_true hanswer hfree, fun hne => absurd hanswer hne⟩
  · obtain ⟨g, hg, htaken, hanswer⟩ | ⟨_, hother, -⟩ | ⟨_, hother, -⟩ | ⟨hother, -⟩ := hkept
    · obtain rfl : g = f := Request.register.inj (hg.symm.trans hrequest)
      rw [hanswer]
      exact ⟨iff_of_false nofun (Option.isSome_iff_ne_none.mp htaken), fun _ => ⟨rfl, hregistry⟩⟩
    all_goals rw [hother] at hrequest; cases hrequest

/-- The descriptors after a history: one for each function that is registered, each
under its name. -/
theorem Run.descriptors_perm (h : Run s events s') : s'.registry.descriptors.entries.Perm
    ((registered s.registry events).map fun f => (f.name, f.descriptor)) := by
  have hperm := h.entries_perm.map fun e => (e.1, e.2.descriptor)
  rwa [List.map_map] at hperm

/-- Under a name the descriptors tell what the first function of the name says about
itself. -/
theorem Run.get?_descriptors (h : Run s events s') (name : String) :
    s'.registry.descriptors.get? name =
      (first s.registry events name).map SpanningFunction.descriptor := by
  rw [← h.get?]
  exact OrderedMap.get?_map _ _ name

/-- **A descriptor describes the first function of its name**: what that function checks,
its parameters, its result and its default parameters. -/
theorem Run.get?_descriptors_eq_some_iff (h : Run s events s') {d : Descriptor} :
    s'.registry.descriptors.get? name = some d ↔
      ∃ f, first s.registry events name = some f ∧ f.description = d.description ∧
        f.params = d.params ∧ f.returns = d.returns ∧ f.defaultParams = d.defaultParams := by
  rw [h.get?_descriptors, Option.map_eq_some_iff]
  simp only [SpanningFunction.descriptor_eq_iff]

/-- **The first registration of a name stands.** Clients have asked and been answered in
any turns, and one of them is served next. Whether it registers, looks up or lists, the
answer is told by what was registered before, and what it found stays found. -/
theorem first_registration_stands (hrun : Run s before u) (hserves : Serves u e u') :
    -- A function is registered just when its name is free, and nothing changes otherwise.
    (∀ f, e.request = .register f →
      (e.answer = .registered (.ok ()) ↔ ∀ g ∈ registered s.registry before, g.name ≠ f.name) ∧
      (e.answer ≠ .registered (.ok ()) →
        e.answer = .registered (.error (taken f.name)) ∧ u'.registry = u.registry)) ∧
    -- A look-up finds the first function of the name; one that must find it fails just
    -- when the other finds none.
    (∀ name f, e.LooksUp name → (e.Finds name f ↔ first s.registry before name = some f)) ∧
    (∀ name, e.request = .get name → e.answer = .got (first s.registry before name)) ∧
    (∀ name, e.request = .require name →
      (e.answer = .required (.error (.unknownFunction name)) ↔
        (u.registry.perform (.get name)).2 = .got none) ∧
      (∀ fault, e.answer = .required (.error fault) → fault = .unknownFunction name)) ∧
    -- The descriptors are those of the functions that are registered, by name, and each
    -- has the four parts that the first function of its name tells of itself.
    (e.request = .descriptors → ∃ all, e.answer = .described all ∧
      all.keys.Pairwise (· < ·) ∧
      all.entries.Perm ((registered s.registry before).map fun f => (f.name, f.descriptor)) ∧
      (∀ name, all.get? name = (first s.registry before name).map SpanningFunction.descriptor) ∧
      ∀ name d, all.get? name = some d ↔
        ∃ f, first s.registry before name = some f ∧ f.description = d.description ∧
          f.params = d.params ∧ f.returns = d.returns ∧ f.defaultParams = d.defaultParams) ∧
    -- What a name was found to be, it is found to be by every later look-up.
    ∀ between v e' v', Run u' between v → Serves v e' v' →
      ∀ name f, e.Finds name f → e'.LooksUp name → e'.Finds name f := by
  have hanswer : (u.registry.perform e.request).2 = e.answer := by rw [hserves.answer]
  refine ⟨fun f hrequest => ?_, fun name f hlooks => ?_, fun name hrequest => ?_,
    fun name hrequest => ?_, fun hrequest => ?_, fun between v e' v' hlater hserves' name f => ?_⟩
  · obtain ⟨hgranted, hrefused⟩ := hserves.register_iff hrequest
    exact ⟨hgranted.trans hrun.get?_eq_none_iff, hrefused⟩
  · rw [hserves.finds_iff hlooks, hrun.get?]
  · rw [← hanswer, hrequest, ← hrun.get?]
    rfl
  · rw [← hanswer, hrequest]
    constructor
    · simp only [perform, Answer.required.injEq, Answer.got.injEq]
      exact require_eq_error_iff
    · intro fault hfault
      exact require_fault (Answer.required.inj hfault)
  · rw [← hanswer, hrequest]
    exact ⟨_, rfl, OrderedMap.keys_ascending _, hrun.descriptors_perm, hrun.get?_descriptors,
      fun name d => hrun.get?_descriptors_eq_some_iff⟩
  · exact hserves.finds_again hlater hserves'

/-- Two clients register a function of one name: the second one is refused, and the name
stays what it was. -/
theorem second_of_a_name_is_refused :
    ∃ (echo cells : SpanningFunction) (before : List (Event Bool)) (s u u' : Desk Bool),
      s.registry = builtins ∧ echo.name = cells.name ∧
      Run s before u ∧
      Serves u ⟨false, .register cells, .registered (.error (taken cells.name))⟩ u' ∧
      echo ∈ registered s.registry before ∧ u'.registry = u.registry := by
  let echo := SpanningFunction.stock "echo" "copy" []
  let cells := SpanningFunction.stock "cells" "copy" []
  let s : Desk Bool := ⟨builtins, fun c => [.register (if c then echo else cells)]⟩
  let u : Desk Bool := ⟨builtins.insert echo, fun c => if c then [] else [.register cells]⟩
  let u' : Desk Bool := ⟨u.registry, fun _ => []⟩
  have hfree : builtins.get? echo.name = none := rfl
  have hfirst : Serves s ⟨true, .register echo, .registered (.ok ())⟩ u := by
    refine ⟨rfl, fun c hc => ?_, ?_⟩
    · cases c <;> trivial
    · change builtins.perform (.register echo) = _
      rw [perform, register_of_free hfree]
  have hrun : Run s [⟨true, .register echo, .registered (.ok ())⟩] u := .cons hfirst (.nil u)
  have htaken : (u.registry.get? cells.name).isSome := by
    rw [get?_insert]
    rfl
  have hserves : Serves u ⟨false, .register cells, .registered (.error (taken cells.name))⟩ u' := by
    refine ⟨rfl, fun c hc => ?_, ?_⟩
    · cases c <;> trivial
    · rw [perform, register_of_taken htaken]
  obtain ⟨hregister, -⟩ := first_registration_stands hrun hserves
  exact ⟨echo, cells, _, s, u, u', rfl, rfl, hrun, hserves, by simp [registered, Event.granted?],
    ((hregister cells rfl).2 nofun).2⟩

end Registry

end DataQuality
