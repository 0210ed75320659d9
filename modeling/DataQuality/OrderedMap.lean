/-!
# Ordered maps — one entry per key, in key order

The entries are kept strictly ascending by key, so a map has one
representation and its listing needs no sorting. Writing to a key that is
present replaces its value and moves nothing.
-/

namespace DataQuality

/-- A finite map whose entries are strictly ascending by key. -/
structure OrderedMap (κ : Type) (α : Type) [LT κ] where
  entries : List (κ × α)
  ascending : entries.Pairwise fun x y => x.1 < y.1

namespace OrderedMap

variable {κ α β : Type} [LT κ]

theorem ext {m n : OrderedMap κ α} (h : m.entries = n.entries) : m = n := by
  cases m; cases n; cases h; rfl

instance : Inhabited (OrderedMap κ α) := ⟨⟨[], List.Pairwise.nil⟩⟩

/-- The map without entries. -/
def empty : OrderedMap κ α := ⟨[], List.Pairwise.nil⟩

/-- The keys, strictly ascending. -/
def keys (m : OrderedMap κ α) : List κ := m.entries.map Prod.fst

/-- The values in key order. -/
def values (m : OrderedMap κ α) : List α := m.entries.map Prod.snd

/-- The number of entries. -/
def size (m : OrderedMap κ α) : Nat := m.entries.length

theorem keys_ascending (m : OrderedMap κ α) : m.keys.Pairwise (· < ·) :=
  List.pairwise_map.mpr m.ascending

section Lookup

variable [DecidableEq κ]

/-- The value stored first under `k` in a list of entries. -/
def lookup (k : κ) : List (κ × α) → Option α
  | [] => none
  | e :: rest => if e.1 = k then some e.2 else lookup k rest

/-- The value stored under `k`. -/
def get? (m : OrderedMap κ α) (k : κ) : Option α := lookup k m.entries

/-- Whether a value is stored under `k`. -/
def contains (m : OrderedMap κ α) (k : κ) : Bool := (m.get? k).isSome

end Lookup

/-- The same keys with every value changed by `f`. -/
def map (f : κ → α → β) (m : OrderedMap κ α) : OrderedMap κ β where
  entries := m.entries.map fun e => (e.1, f e.1 e.2)
  ascending := List.pairwise_map.mpr (m.ascending.imp fun h => h)

section Insert

variable [DecidableLT κ]

/-- Writes `a` under `k` at the place the key order gives it, replacing
an entry with the same key. -/
def insertEntry (k : κ) (a : α) : List (κ × α) → List (κ × α)
  | [] => [(k, a)]
  | e :: rest =>
    if k < e.1 then (k, a) :: e :: rest
    else if e.1 < k then e :: insertEntry k a rest
    else (k, a) :: rest

theorem mem_insertEntry {k : κ} {a : α} {x : κ × α} {l : List (κ × α)}
    (h : x ∈ insertEntry k a l) : x = (k, a) ∨ x ∈ l := by
  induction l with
  | nil => simpa [insertEntry] using h
  | cons e rest ih =>
    rw [insertEntry] at h
    split at h
    · simpa using h
    · split at h
      · rcases List.mem_cons.mp h with rfl | h
        · simp
        · rcases ih h with h | h <;> simp [h]
      · rcases List.mem_cons.mp h with rfl | h <;> simp [*]

variable [LE κ] [Std.IsLinearOrder κ] [Std.LawfulOrderLT κ]

theorem insertEntry_ascending (k : κ) (a : α) {l : List (κ × α)}
    (h : l.Pairwise fun x y => x.1 < y.1) :
    (insertEntry k a l).Pairwise fun x y => x.1 < y.1 := by
  induction l with
  | nil => simp [insertEntry]
  | cons e rest ih =>
    obtain ⟨hall, hrest⟩ := List.pairwise_cons.mp h
    rw [insertEntry]
    split
    · rename_i hlt
      refine List.pairwise_cons.mpr ⟨fun y hy => ?_, h⟩
      rcases List.mem_cons.mp hy with rfl | hy
      · exact hlt
      · exact Std.lt_trans hlt (hall y hy)
    · rename_i hnlt
      split
      · rename_i hgt
        refine List.pairwise_cons.mpr ⟨fun y hy => ?_, ih hrest⟩
        rcases mem_insertEntry hy with rfl | hy
        · exact hgt
        · exact hall y hy
      · rename_i hngt
        have hk : k = e.1 := by
          rcases Std.lt_trichotomy k e.1 with h1 | h1 | h1
          · exact absurd h1 hnlt
          · exact h1
          · exact absurd h1 hngt
        exact List.pairwise_cons.mpr ⟨fun y hy => hk ▸ hall y hy, hrest⟩

/-- Writes `a` under `k`; an earlier value of `k` is replaced. -/
def insert (m : OrderedMap κ α) (k : κ) (a : α) : OrderedMap κ α :=
  ⟨insertEntry k a m.entries, insertEntry_ascending k a m.ascending⟩

/-- The map of a list of entries, the last entry of a key winning. -/
def ofList (l : List (κ × α)) : OrderedMap κ α :=
  l.foldl (fun m e => m.insert e.1 e.2) empty

end Insert

section Laws

variable [DecidableLT κ] [DecidableEq κ] [LE κ] [Std.IsLinearOrder κ] [Std.LawfulOrderLT κ]

theorem lookup_insertEntry (k k' : κ) (a : α) (l : List (κ × α)) :
    lookup k' (insertEntry k a l) = if k = k' then some a else lookup k' l := by
  induction l with
  | nil => simp [insertEntry, lookup]
  | cons e rest ih =>
    rw [insertEntry]
    split
    · simp [lookup]
    · rename_i hnlt
      split
      · rename_i hgt
        have hne : k ≠ e.1 := fun h => by
          rw [h] at hgt
          exact Std.lt_irrefl hgt
        simp only [lookup, ih]
        by_cases hek : e.1 = k'
        · have : k ≠ k' := hek ▸ hne
          simp [hek, this]
        · simp [hek]
      · rename_i hngt
        have hk : k = e.1 := by
          rcases Std.lt_trichotomy k e.1 with h1 | h1 | h1
          · exact absurd h1 hnlt
          · exact h1
          · exact absurd h1 hngt
        subst hk
        simp only [lookup]
        split <;> rfl

/-- **A write is read back, and no other key sees it.** -/
theorem get?_insert (m : OrderedMap κ α) (k k' : κ) (a : α) :
    (m.insert k a).get? k' = if k = k' then some a else m.get? k' :=
  lookup_insertEntry k k' a m.entries

end Laws

@[simp] theorem get?_empty [DecidableEq κ] (k : κ) : (empty : OrderedMap κ α).get? k = none := rfl

end OrderedMap

end DataQuality
