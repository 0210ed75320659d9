import DataQuality.OrderedMap
import Mathlib.Data.List.Induction
/-!
# Ordered maps — equality, size, and maps made of lists

A map is its look-ups: two maps that answer every key alike are one map
(`ext_get?`), since the entries are ascending. A map made of a list has at
most as many entries as the list, and exactly as many when no key comes
twice.
-/

namespace DataQuality

namespace OrderedMap

variable {κ α : Type} {k : κ} {a : α}

section Entries

variable [LT κ] [DecidableEq κ] [LE κ] [Std.IsLinearOrder κ] [Std.LawfulOrderLT κ]
variable {m n : OrderedMap κ α}

/-! ## Look-ups and entries -/

omit [Std.IsLinearOrder κ] in
/-- In ascending entries a key is looked up as it is listed. -/
theorem lookup_eq_some_iff {l : List (κ × α)} (h : l.Pairwise fun x y => x.1 < y.1) :
    lookup k l = some a ↔ (k, a) ∈ l := by
  induction l with
  | nil => simp [lookup]
  | cons e rest ih =>
    obtain ⟨hall, hrest⟩ := List.pairwise_cons.mp h
    rw [lookup, List.mem_cons]
    by_cases hek : e.1 = k
    · rw [if_pos hek]
      constructor
      · intro ha
        left
        rw [← Option.some.inj ha, ← hek]
      · rintro (he | hmem)
        · rw [← he]
        -- The key stands at the head, and what follows has greater keys.
        · exact absurd (hall _ hmem) (hek ▸ Std.lt_irrefl)
    · rw [if_neg hek, ih hrest]
      constructor
      · exact Or.inr
      · rintro (he | hmem)
        · exact absurd (by rw [← he]) hek
        · exact hmem

omit [Std.IsLinearOrder κ] in
theorem mem_entries_iff : (k, a) ∈ m.entries ↔ m.get? k = some a :=
  (lookup_eq_some_iff m.ascending).symm

omit [Std.IsLinearOrder κ] in
theorem mem_keys_iff : k ∈ m.keys ↔ (m.get? k).isSome := by
  simp only [keys, List.mem_map, Option.isSome_iff_exists]
  constructor
  · rintro ⟨⟨_, a⟩, hmem, rfl⟩
    exact ⟨a, mem_entries_iff.mp hmem⟩
  · rintro ⟨a, ha⟩
    exact ⟨(k, a), mem_entries_iff.mpr ha, rfl⟩

omit [LE κ] [Std.IsLinearOrder κ] [Std.LawfulOrderLT κ] in
/-- A key is found under the changed values where it is found under the others. -/
theorem get?_map {β : Type} (f : κ → α → β) (m : OrderedMap κ α) (k : κ) :
    (m.map f).get? k = (m.get? k).map (f k) := by
  change lookup k (m.entries.map fun e => (e.1, f e.1 e.2)) = (lookup k m.entries).map (f k)
  induction m.entries with
  | nil => rfl
  | cons e rest ih =>
    rw [List.map_cons, lookup, lookup]
    by_cases hek : e.1 = k
    · rw [if_pos hek, if_pos hek, hek, Option.map_some]
    · rw [if_neg hek, if_neg hek, ih]

omit [DecidableEq κ] in
/-- Two ascending lists with the same members are one list. -/
theorem eq_of_ascending {β : Type} {f : β → κ} {l l' : List β}
    (h : l.Pairwise fun x y => f x < f y) (h' : l'.Pairwise fun x y => f x < f y)
    (hmem : ∀ x, x ∈ l ↔ x ∈ l') : l = l' := by
  have hne : ∀ {x y : β}, f x < f y → x ≠ y := fun hlt he => Std.lt_irrefl (he ▸ hlt)
  refine List.Perm.eq_of_pairwise (fun x y _ _ hxy hyx => ?_) h h' ?_
  · exact absurd (Std.lt_trans hxy hyx) Std.lt_irrefl
  · exact (List.perm_ext_iff_of_nodup (h.imp hne) (h'.imp hne)).mpr hmem

/-- **A map is its look-ups.** -/
theorem ext_get? (h : ∀ k, m.get? k = n.get? k) : m = n := by
  refine ext (eq_of_ascending m.ascending n.ascending fun e => ?_)
  rw [mem_entries_iff, mem_entries_iff, h e.1]

/-- The keys are told by which look-ups succeed. -/
theorem keys_eq_of_isSome {β : Type} {n : OrderedMap κ β}
    (h : ∀ k, (m.get? k).isSome = (n.get? k).isSome) : m.keys = n.keys := by
  refine eq_of_ascending (f := id) m.keys_ascending n.keys_ascending fun k => ?_
  rw [mem_keys_iff, mem_keys_iff, h k]

end Entries

variable [LT κ] [DecidableLT κ] [DecidableEq κ] [LE κ] [Std.IsLinearOrder κ]
variable [Std.LawfulOrderLT κ] {m : OrderedMap κ α}

/-- A write to a key that is present adds none. -/
theorem keys_insert_of_isSome (h : (m.get? k).isSome) : (m.insert k a).keys = m.keys := by
  refine keys_eq_of_isSome fun k' => ?_
  rw [get?_insert]
  split
  · rename_i he
    rw [← he, h]
    rfl
  · rfl

/-! ## Size -/

/-- A write adds one entry where the key is new, and none elsewhere. -/
theorem length_insertEntry (k : κ) (a : α) (l : List (κ × α)) :
    (insertEntry k a l).length ≤ l.length + 1 ∧
      (lookup k l = none → (insertEntry k a l).length = l.length + 1) := by
  induction l with
  | nil => simp [insertEntry]
  | cons e rest ih =>
    rw [insertEntry]
    split
    · simp
    · rename_i hnlt
      split
      · rename_i hgt
        refine ⟨by simpa using ih.1, fun hnone => ?_⟩
        rw [lookup, if_neg (Std.ne_of_lt hgt)] at hnone
        simpa using ih.2 hnone
      · rename_i hngt
        have hk : e.1 = k := by
          rcases Std.lt_trichotomy e.1 k with h1 | h1 | h1
          · exact absurd h1 hngt
          · exact h1
          · exact absurd h1 hnlt
        refine ⟨by simp, fun hnone => ?_⟩
        rw [lookup, if_pos hk] at hnone
        cases hnone

/-- A write to a new key adds its entry to those that are there. -/
theorem insertEntry_perm {l : List (κ × α)} (h : lookup k l = none) :
    (insertEntry k a l).Perm ((k, a) :: l) := by
  induction l with
  | nil => exact .refl _
  | cons e rest ih =>
    rw [lookup] at h
    split at h
    · cases h
    · rename_i hne
      rw [insertEntry]
      split
      · exact .refl _
      · rename_i hnlt
        split
        · exact ((ih h).cons e).trans (.swap _ _ _)
        · rename_i hngt
          rcases Std.lt_trichotomy e.1 k with h1 | h1 | h1
          · exact absurd h1 hngt
          · exact absurd h1 hne
          · exact absurd h1 hnlt

theorem size_insert_le : (m.insert k a).size ≤ m.size + 1 :=
  (length_insertEntry k a m.entries).1

theorem size_insert (h : m.get? k = none) : (m.insert k a).size = m.size + 1 :=
  (length_insertEntry k a m.entries).2 h

omit [DecidableEq κ] in
/-- An entry whose key is greater than all others comes last. -/
theorem insertEntry_of_last {l : List (κ × α)} (h : ∀ e ∈ l, e.1 < k) :
    insertEntry k a l = l ++ [(k, a)] := by
  induction l with
  | nil => rfl
  | cons e rest ih =>
    obtain ⟨he, hrest⟩ := List.forall_mem_cons.mp h
    have hnlt : ¬k < e.1 := fun hlt => Std.lt_irrefl (Std.lt_trans he hlt)
    rw [insertEntry, if_neg hnlt, if_pos he, ih hrest]
    rfl

/-! ## Maps of lists

A list is written from its front, so the inductions are from its end: the
last write is the one that shows. -/

omit [DecidableLT κ] [DecidableEq κ] [LE κ] [Std.IsLinearOrder κ] [Std.LawfulOrderLT κ] [LT κ] in
/-- A list without repeated keys ends in an entry whose key is new. -/
theorem keys_nodup_concat {l : List (κ × α)} {e : κ × α}
    (h : ((l ++ [e]).map Prod.fst).Nodup) : (l.map Prod.fst).Nodup ∧ e.1 ∉ l.map Prod.fst := by
  rw [List.map_append] at h
  obtain ⟨hl, -, hne⟩ := List.nodup_append.mp h
  exact ⟨hl, fun hmem => hne _ hmem e.1 (List.mem_singleton.mpr rfl) rfl⟩

omit [DecidableEq κ] in
/-- The last entry of a list is written last. -/
theorem ofList_concat (l : List (κ × α)) (k : κ) (a : α) :
    ofList (l ++ [(k, a)]) = (ofList l).insert k a := by
  rw [ofList, List.foldl_append]
  rfl

/-- What a map of a list holds stands in the list. -/
theorem mem_of_get?_ofList {l : List (κ × α)} (h : (ofList l).get? k = some a) : (k, a) ∈ l := by
  induction l using List.reverseRecOn with
  | nil => simp [ofList] at h
  | append_singleton l e ih =>
    rw [ofList_concat, get?_insert] at h
    split at h
    · rename_i he
      rw [← he, ← Option.some.inj h]
      simp
    · exact List.mem_append_left _ (ih h)

/-- Entries that are written over a map show before what it held. -/
theorem get?_foldl_insert (l : List (κ × α)) (m : OrderedMap κ α) :
    (l.foldl (fun m e => m.insert e.1 e.2) m).get? k = ((ofList l).get? k).or (m.get? k) := by
  induction l using List.reverseRecOn with
  | nil => rfl
  | append_singleton l e ih =>
    rw [ofList_concat, List.foldl_append, List.foldl_cons, List.foldl_nil, get?_insert, get?_insert,
      ih]
    split <;> rfl

/-- Entries that are written twice are written once. -/
theorem foldl_insert_twice (l : List (κ × α)) (m : OrderedMap κ α) :
    l.foldl (fun m e => m.insert e.1 e.2) (l.foldl (fun m e => m.insert e.1 e.2) m) =
      l.foldl (fun m e => m.insert e.1 e.2) m := by
  refine ext_get? fun k => ?_
  rw [get?_foldl_insert, get?_foldl_insert, ← Option.or_assoc, Option.or_self]

theorem size_ofList_le (l : List (κ × α)) : (ofList l).size ≤ l.length := by
  induction l using List.reverseRecOn with
  | nil => exact Nat.le_refl 0
  | append_singleton l e ih =>
    rw [ofList_concat, List.length_append]
    exact Nat.le_trans size_insert_le (Nat.add_le_add_right ih 1)

/-- **Where no key comes twice, the map of a list is the list**: it holds
what stands in the list, and it is as long. -/
theorem get?_ofList {l : List (κ × α)} (h : (l.map Prod.fst).Nodup) :
    (ofList l).get? k = some a ↔ (k, a) ∈ l := by
  induction l using List.reverseRecOn with
  | nil => simp [ofList]
  | append_singleton l e ih =>
    obtain ⟨hl, hnot⟩ := keys_nodup_concat h
    rw [ofList_concat, get?_insert, List.mem_append, List.mem_singleton]
    by_cases he : e.1 = k
    · rw [if_pos he]
      constructor
      · intro ha
        right
        rw [← Option.some.inj ha, ← he]
      · rintro (hmem | hlast)
        · exact absurd (List.mem_map.mpr ⟨_, hmem, rfl⟩) (he ▸ hnot)
        · rw [← hlast]
    · rw [if_neg he, ih hl]
      constructor
      · exact Or.inl
      · rintro (hmem | hlast)
        · exact hmem
        · exact absurd (by rw [← hlast]) he

theorem size_ofList {l : List (κ × α)} (h : (l.map Prod.fst).Nodup) :
    (ofList l).size = l.length := by
  induction l using List.reverseRecOn with
  | nil => rfl
  | append_singleton l e ih =>
    obtain ⟨hl, hnot⟩ := keys_nodup_concat h
    have hnew : (ofList l).get? e.1 = none := by
      rw [Option.eq_none_iff_forall_ne_some]
      intro b hb
      exact hnot (List.mem_map.mpr ⟨_, mem_of_get?_ofList hb, rfl⟩)
    rw [ofList_concat, size_insert hnew, ih hl, List.length_append]
    rfl

end OrderedMap

end DataQuality
