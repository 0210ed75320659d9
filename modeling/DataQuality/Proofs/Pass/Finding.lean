import DataQuality.Pass.Evaluator
import DataQuality.Proofs.OrderedMap
/-!
# Findings — what the visits of a pass came to

A finding says what became of one row that an open pass was shown: the row
could not be bound, or its checks were evaluated. Dirty rows and counters
are read off the list of findings, without a pass: this is what a pass is
to be compared with. The counters balance whatever the findings are; the
dirty rows are as many as were counted when no row was found twice.
-/

namespace DataQuality

/-- What became of one row that an open pass was shown. -/
inductive Finding where
  | refused (index : Nat)
  | judged (index : Nat) (results : List Bool) (excluded : Nat)
  deriving DecidableEq

namespace Finding

variable {c : Combination} {fs : List Finding} {f : Finding}

/-- The index of the row. -/
def index : Finding → Nat
  | refused i => i
  | judged i _ _ => i

/-- The results of the row; a refused row has none. -/
def results : Finding → List Bool
  | refused _ => []
  | judged _ rs _ => rs

/-- How many results of the row are left out. -/
def excluded : Finding → Nat
  | refused _ => 0
  | judged _ _ n => n

/-- Whether the checks of the row were evaluated. -/
def isJudged : Finding → Bool
  | refused _ => false
  | judged _ _ _ => true

/-- Whether the row is dirty. -/
def isDirty (c : Combination) (f : Finding) : Bool := f.isJudged && c.isDirty f.results

/-- The dirty rows of findings in their order, each with its results. -/
def dirtyEntries (c : Combination) (fs : List Finding) : List (Nat × List Bool) :=
  (fs.filter (isDirty c)).map fun f => (f.index, f.results)

/-- The dirty rows of findings by index. Of a row that was found dirty twice
the later results stay; one that is found clean later stays dirty. -/
def dirtyIndex (c : Combination) (fs : List Finding) : DirtyIndex :=
  OrderedMap.ofList (dirtyEntries c fs)

/-- What a number of each finding comes to together. -/
def total (n : Finding → Nat) : List Finding → Nat
  | [] => 0
  | f :: rest => n f + total n rest

/-- The counters of findings. -/
def stats (c : Combination) (fs : List Finding) : PassStats where
  visited := fs.length
  evaluated := fs.countP isJudged
  skippedRows := fs.countP (!·.isJudged)
  excluded := total excluded fs
  dirtyRows := fs.countP (isDirty c)

theorem total_concat (n : Finding → Nat) : total n (fs ++ [f]) = total n fs + n f := by
  induction fs with
  | nil => exact Nat.add_comm (n f) 0
  | cons g rest ih => rw [List.cons_append, total, ih, total, Nat.add_assoc]

@[simp] theorem dirtyIndex_nil : dirtyIndex c [] = OrderedMap.empty := rfl

@[simp] theorem stats_nil : stats c [] = {} := rfl

/-! ## One finding more -/

theorem dirtyEntries_concat : dirtyEntries c (fs ++ [f]) =
    dirtyEntries c fs ++ if f.isDirty c then [(f.index, f.results)] else [] := by
  rw [dirtyEntries, List.filter_append, List.map_append, List.filter_cons, List.filter_nil]
  cases f.isDirty c <;> rfl

/-- A dirty row is entered, and another one changes nothing. -/
theorem dirtyIndex_concat : dirtyIndex c (fs ++ [f]) =
    if f.isDirty c then (dirtyIndex c fs).insert f.index f.results else dirtyIndex c fs := by
  rw [dirtyIndex, dirtyEntries_concat]
  split
  · exact OrderedMap.ofList_concat _ _ _
  · rw [List.append_nil, dirtyIndex]

theorem stats_concat_refused {i : Nat} : stats c (fs ++ [refused i]) =
    { stats c fs with
      visited := (stats c fs).visited + 1, skippedRows := (stats c fs).skippedRows + 1 } := by
  simp [stats, isDirty, isJudged, excluded, total_concat]

theorem stats_concat_judged {i n : Nat} {rs : List Bool} : stats c (fs ++ [judged i rs n]) =
    { stats c fs with
      visited := (stats c fs).visited + 1
      evaluated := (stats c fs).evaluated + 1
      excluded := (stats c fs).excluded + n
      dirtyRows := (stats c fs).dirtyRows + if c.isDirty rs then 1 else 0 } := by
  simp [stats, isDirty, isJudged, excluded, results, total_concat, List.countP_cons]

/-! ## The balance of the counters -/

/-- **Every visited row is evaluated or skipped.** -/
theorem evaluated_add_skippedRows :
    (stats c fs).evaluated + (stats c fs).skippedRows = (stats c fs).visited := by
  simp only [stats]
  rw [List.length_eq_countP_add_countP (p := isJudged) (l := fs)]
  simp

/-- Only an evaluated row is dirty. -/
theorem dirtyRows_le_evaluated : (stats c fs).dirtyRows ≤ (stats c fs).evaluated := by
  refine List.countP_mono_left fun f _ h => ?_
  rw [isDirty, Bool.and_eq_true] at h
  exact h.1

theorem length_dirtyEntries : (dirtyEntries c fs).length = (stats c fs).dirtyRows := by
  rw [dirtyEntries, List.length_map, ← List.countP_eq_length_filter]
  rfl

/-- **There are no more dirty rows than were counted**: a row that was found
dirty twice was counted twice. -/
theorem size_dirtyIndex_le : (dirtyIndex c fs).size ≤ (stats c fs).dirtyRows :=
  length_dirtyEntries (c := c) ▸ OrderedMap.size_ofList_le _

theorem total_le_of_sublist (n : Finding → Nat) {gs : List Finding} (h : gs.Sublist fs) :
    total n gs ≤ total n fs := by
  induction h with
  | slnil => exact Nat.le_refl 0
  | cons f _ ih => exact Nat.le_trans ih (Nat.le_add_left _ _)
  | cons_cons f _ ih => exact Nat.add_le_add_left ih (n f)

/-- **No counter is greater** where some of the findings are missing. -/
theorem stats_le_of_sublist {gs : List Finding} (h : gs.Sublist fs) :
    (stats c gs).visited ≤ (stats c fs).visited ∧
      (stats c gs).evaluated ≤ (stats c fs).evaluated ∧
      (stats c gs).skippedRows ≤ (stats c fs).skippedRows ∧
      (stats c gs).excluded ≤ (stats c fs).excluded ∧
      (stats c gs).dirtyRows ≤ (stats c fs).dirtyRows :=
  ⟨h.length_le, h.countP_le, h.countP_le, total_le_of_sublist excluded h, h.countP_le⟩

/-- Where each evaluated row has an account of `n`, so have all of them. -/
theorem total_results_add_excluded {n : Nat}
    (h : ∀ f ∈ fs, f.isJudged = true → f.results.length + f.excluded = n) :
    total (·.results.length) fs + (stats c fs).excluded = (stats c fs).evaluated * n := by
  simp only [stats]
  induction fs with
  | nil => simp [total]
  | cons f rest ih =>
    have hrest := ih fun g hg => h g (List.mem_cons_of_mem f hg)
    simp only [total, List.countP_cons]
    cases f with
    | refused i => simpa [results, excluded, isJudged] using hrest
    | judged i rs m =>
      have hf : rs.length + m = n := h _ List.mem_cons_self rfl
      change rs.length + _ + (m + _) = (_ + 1) * n
      rw [Nat.add_mul, Nat.one_mul]
      omega

/-! ## Rows found once -/

theorem keys_dirtyEntries_sublist : ((dirtyEntries c fs).map Prod.fst).Sublist (fs.map index) := by
  rw [dirtyEntries, List.map_map]
  exact List.filter_sublist.map _

/-- **Rows found once are counted as they are listed.** -/
theorem size_dirtyIndex (h : (fs.map index).Nodup) :
    (dirtyIndex c fs).size = (stats c fs).dirtyRows := by
  rw [dirtyIndex, OrderedMap.size_ofList (keys_dirtyEntries_sublist.nodup h), length_dirtyEntries]

theorem mem_dirtyEntries {i : Nat} {rs : List Bool} : (i, rs) ∈ dirtyEntries c fs ↔
    ∃ n, judged i rs n ∈ fs ∧ c.isDirty rs = true := by
  simp only [dirtyEntries, List.mem_map, List.mem_filter, isDirty, Bool.and_eq_true]
  constructor
  · rintro ⟨f, ⟨hmem, hjudged, hdirty⟩, heq⟩
    cases f with
    | refused j => cases hjudged
    | judged j rs' n =>
      obtain ⟨rfl, rfl⟩ := Prod.mk.inj heq
      exact ⟨n, hmem, hdirty⟩
  · rintro ⟨n, hmem, hdirty⟩
    exact ⟨judged i rs n, ⟨hmem, rfl, hdirty⟩, rfl⟩

/-- A row is dirty with the results it was judged dirty with. -/
theorem get?_dirtyIndex (h : (fs.map index).Nodup) {i : Nat} {rs : List Bool} :
    (dirtyIndex c fs).get? i = some rs ↔ ∃ n, judged i rs n ∈ fs ∧ c.isDirty rs = true := by
  rw [dirtyIndex, OrderedMap.get?_ofList (keys_dirtyEntries_sublist.nodup h), mem_dirtyEntries]

end Finding

end DataQuality
