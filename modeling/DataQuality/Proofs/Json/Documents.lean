import DataQuality.Proofs.Json.Numbers
import DataQuality.Proofs.Json.Record
import DataQuality.Proofs.OrderedMap
/-!
# Documents — what is read, and what is read back

What a tree is read as is made of what its parts are read as
(`Decode.forall_of_items?`, `forall_members`): it is equal to itself
(`beq_self_of_tree`), and of fields with one name the last is what the document
holds (`lookup_of_fields`).

A document that is written and read again comes back if its numbers do and its
fields are in order (`Stable`). All that is read of integer literals of 64 bits
is such a document (`Tree.Integral.stable`).
-/

namespace DataQuality

namespace Json

open Text (quoteBody)

variable {room : Nat} {t : Tree} {j : Json} {name : String} {items : List Tree} {js : List Json}
  {fields : List (List Char × Tree)} {done members : List (String × Json)}

/-! ## What is read of items and fields -/

/-- **One field is read at a time**: its name and its document are written over
what was read before. -/
theorem ofFields?_cons_eq_some_iff {f : List Char × Tree} :
    ofFields? done (f :: fields) = some members ↔
      ∃ name j, bodyText? f.1 = some name ∧ ofTree? f.2 = some j ∧
        ofFields? (OrderedMap.insertEntry name j done) fields = some members := by
  obtain ⟨k, t⟩ := f
  rw [ofFields?]
  constructor
  · intro h
    split at h
    · rename_i name j hname hj
      exact ⟨name, j, hname, hj, h⟩
    · cases h
  · rintro ⟨name, j, hname, hj, h⟩
    rw [hname, hj]
    exact h

theorem ofItems?_eq (items : List Tree) : ofItems? items = Decode.items? ofTree? items := by
  induction items with
  | nil => rfl
  | cons t rest ih =>
    rw [ofItems?, Decode.items?, ih]
    cases ofTree? t <;> cases Decode.items? ofTree? rest <;> rfl

/-- What holds of all that is read of the fields, and of what they are written
over, holds of the members of the document. -/
theorem forall_members {P : Json → Prop} (hdone : ∀ e ∈ done, P e.2)
    (hfields : ∀ f ∈ fields, ∀ j, ofTree? f.2 = some j → P j)
    (h : ofFields? done fields = some members) : ∀ e ∈ members, P e.2 := by
  induction fields generalizing done with
  | nil =>
    obtain rfl := Option.some.inj h
    exact hdone
  | cons field rest ih =>
    obtain ⟨ht, hrest⟩ := List.forall_mem_cons.mp hfields
    obtain ⟨name, j, -, hj, h⟩ := ofFields?_cons_eq_some_iff.mp h
    refine ih (fun e he => ?_) hrest h
    rcases OrderedMap.mem_insertEntry he with rfl | he
    · exact ht j hj
    · exact hdone e he

/-- Where fields are read, each of them is. -/
theorem exists_of_fields {f : List Char × Tree} (h : ofFields? done fields = some members)
    (hf : f ∈ fields) : ∃ j, ofTree? f.2 = some j := by
  induction fields generalizing done with
  | nil => cases hf
  | cons field rest ih =>
    obtain ⟨name, j, -, hj, h⟩ := ofFields?_cons_eq_some_iff.mp h
    rcases List.mem_cons.mp hf with rfl | hf
    · exact ⟨j, hj⟩
    · exact ih h hf

/-- Only a string is read as a string. -/
theorem exists_body_of_string {s : String} (h : ofTree? t = some (.string s)) :
    ∃ body, t = .string body ∧ bodyText? body = some s := by
  cases t with
  | string body =>
    obtain ⟨s', hbody, heq⟩ := Option.map_eq_some_iff.mp h
    exact ⟨body, rfl, Json.string.inj heq ▸ hbody⟩
  | null => cases h
  | bool b => cases h
  | number n =>
    obtain ⟨_, _, heq⟩ := Option.map_eq_some_iff.mp h
    cases heq
  | array items =>
    obtain ⟨_, _, heq⟩ := Option.map_eq_some_iff.mp h
    cases heq
  | object fields =>
    obtain ⟨_, _, heq⟩ := Option.map_eq_some_iff.mp h
    cases heq

/-- The members of a document are in order. -/
theorem ascending_of_fields (hdone : done.Pairwise fun x y => x.1 < y.1)
    (h : ofFields? done fields = some members) : members.Pairwise fun x y => x.1 < y.1 := by
  induction fields generalizing done with
  | nil =>
    obtain rfl := Option.some.inj h
    exact hdone
  | cons field rest ih =>
    obtain ⟨name, j, -, -, h⟩ := ofFields?_cons_eq_some_iff.mp h
    exact ih (OrderedMap.insertEntry_ascending name j hdone) h

/-! ## What is read is equal to itself -/

theorem sameFields_self {fields : List (String × Json)}
    (h : ∀ e ∈ fields, same e.2 e.2 = true) : sameFields fields fields = true := by
  induction fields with
  | nil => rfl
  | cons e rest ih =>
    obtain ⟨he, hrest⟩ := List.forall_mem_cons.mp h
    rw [sameFields, he, ih hrest, beq_self_eq_true]
    rfl

mutual

/-- **A document that is read is equal to itself**: none of its numbers is no
number. -/
theorem same_self_of_tree {t : Tree} {j : Json} (h : ofTree? t = some j) : same j j = true := by
  cases t with
  | null =>
    obtain rfl := Option.some.inj h
    rfl
  | bool b =>
    obtain rfl := Option.some.inj h
    exact beq_self_eq_true b
  | number n =>
    obtain ⟨number, hnumber, rfl⟩ := Option.map_eq_some_iff.mp h
    exact Number.beq_self_of_numeral hnumber
  | string body =>
    obtain ⟨s, -, rfl⟩ := Option.map_eq_some_iff.mp h
    exact beq_self_eq_true s
  | array items =>
    obtain ⟨js, hjs, rfl⟩ := Option.map_eq_some_iff.mp h
    exact sameItems_self_of_trees hjs
  | object fields =>
    obtain ⟨members, hmembers, rfl⟩ := Option.map_eq_some_iff.mp h
    exact sameFields_self (same_self_of_fields (fun _ he => absurd he List.not_mem_nil) hmembers)

/-- So are its items. -/
theorem sameItems_self_of_trees {items : List Tree} {js : List Json}
    (h : ofItems? items = some js) : sameItems js js = true := by
  cases items with
  | nil =>
    obtain rfl := Option.some.inj h
    rfl
  | cons t rest =>
    rw [ofItems?] at h
    split at h
    · rename_i j js hj hjs
      obtain rfl := Option.some.inj h
      rw [sameItems, same_self_of_tree hj, sameItems_self_of_trees hjs]
      rfl
    · cases h

/-- And so are its fields, written over others that are. -/
theorem same_self_of_fields {done : List (String × Json)} {fields : List (List Char × Tree)}
    {members : List (String × Json)} (hdone : ∀ e ∈ done, same e.2 e.2 = true)
    (h : ofFields? done fields = some members) : ∀ e ∈ members, same e.2 e.2 = true := by
  cases fields with
  | nil =>
    obtain rfl := Option.some.inj h
    exact hdone
  | cons field rest =>
    obtain ⟨name, j, -, hj, h⟩ := ofFields?_cons_eq_some_iff.mp h
    refine same_self_of_fields (fun e he => ?_) h
    -- A name that is written again replaces what was written before.
    rcases OrderedMap.mem_insertEntry he with rfl | he
    · exact same_self_of_tree hj
    · exact hdone e he

end

theorem beq_self_of_tree {t : Tree} {j : Json} (h : ofTree? t = some j) : (j == j) = true :=
  same_self_of_tree h

/-! ## A field of an object -/

/-- The fields of an object as it is written, of those with the name. -/
def named (name : String) (fields : List (List Char × Tree)) : List (List Char × Tree) :=
  fields.filter fun f => bodyText? f.1 == some name

theorem named_cons_of_eq {f : List Char × Tree} (h : bodyText? f.1 = some name) :
    named name (f :: fields) = f :: named name fields :=
  List.filter_cons_of_pos (beq_iff_eq.mpr h)

theorem named_cons_of_ne {f : List Char × Tree} (h : bodyText? f.1 ≠ some name) :
    named name (f :: fields) = named name fields :=
  List.filter_cons_of_neg fun heq => h (beq_iff_eq.mp heq)

/-- **Of fields with one name the last is held**, and where there is none it is
as it was. -/
theorem lookup_of_fields (name : String) (h : ofFields? done fields = some members) :
    OrderedMap.lookup name members =
      match (named name fields).getLast? with
      | some f => ofTree? f.2
      | none => OrderedMap.lookup name done := by
  induction fields generalizing done with
  | nil =>
    obtain rfl := Option.some.inj h
    rfl
  | cons field rest ih =>
    obtain ⟨name', j, hname, hj, h⟩ := ofFields?_cons_eq_some_iff.mp h
    rw [ih h, OrderedMap.lookup_insertEntry]
    by_cases hsame : name' = name
    · subst hsame
      rw [named_cons_of_eq hname, List.getLast?_cons, if_pos rfl]
      cases (named name' rest).getLast? with
      | none => exact hj.symm
      | some f => rfl
    · rw [named_cons_of_ne (by rwa [hname, Ne, Option.some_inj]), if_neg hsame]

/-! ## Written documents -/

theorem toItems_eq (js : List Json) : toItems js = js.map toTree := by
  induction js with
  | nil => rfl
  | cons j rest ih => rw [toItems, ih, List.map_cons]

theorem toFields_eq (members : List (String × Json)) :
    toFields members = members.map fun e => (quoteBody e.1.toList, e.2.toTree) := by
  induction members with
  | nil => rfl
  | cons e rest ih => rw [toFields, ih, List.map_cons]

/-- Only a string is written as a string. -/
theorem exists_string_of_toTree {body : List Char} (h : j.toTree = .string body) :
    ∃ s, j = .string s ∧ body = quoteBody s.toList := by
  cases j with
  | string s => exact ⟨s, rfl, (Tree.string.inj h).symm⟩
  | number n =>
    cases n with
    | integer _ _ _ => cases h
    | float x =>
      rw [toTree] at h
      split at h <;> cases h
  | _ => cases h

/-- A field of a document is written once. -/
theorem named_toFields (name : String) (hascending : members.Pairwise fun x y => x.1 < y.1) :
    named name (toFields members) =
      match OrderedMap.lookup name members with
      | some j => [(quoteBody name.toList, j.toTree)]
      | none => [] := by
  induction members with
  | nil => rfl
  | cons e rest ih =>
    obtain ⟨k, j⟩ := e
    obtain ⟨hall, hrest⟩ := List.pairwise_cons.mp hascending
    have hname : bodyText? (quoteBody k.toList) = some k := bodyText?_quoteBody k
    rw [toFields, OrderedMap.lookup]
    by_cases hsame : k = name
    · subst hsame
      -- What follows has greater names.
      have hnone : OrderedMap.lookup k rest = none := by
        refine Option.eq_none_iff_forall_ne_some.mpr fun j' hj' => ?_
        have hmem : (k, j') ∈ rest := (OrderedMap.lookup_eq_some_iff hrest).mp hj'
        exact Std.lt_irrefl (hall (k, j') hmem)
      rw [named_cons_of_eq hname, if_pos rfl, ih hrest, hnone]
    · rw [named_cons_of_ne (by rwa [hname, Ne, Option.some_inj]), if_neg hsame, ih hrest]

theorem Tree.depthItems_le_iff : Tree.depthItems items ≤ room ↔ ∀ t ∈ items, t.depth ≤ room := by
  induction items with
  | nil => exact ⟨fun _ => nofun, fun _ => Nat.zero_le room⟩
  | cons t rest ih => rw [depthItems, Nat.max_le, ih, List.forall_mem_cons]

theorem Tree.depthFields_le_iff :
    Tree.depthFields fields ≤ room ↔ ∀ f ∈ fields, f.2.depth ≤ room := by
  induction fields with
  | nil => exact ⟨fun _ => nofun, fun _ => Nat.zero_le room⟩
  | cons f rest ih => rw [depthFields, Nat.max_le, ih, List.forall_mem_cons]

/-- Items are read back where each of them is. -/
theorem ofItems?_toItems (h : ∀ j ∈ js, ofTree? j.toTree = some j) :
    ofItems? (toItems js) = some js := by
  have hmap : Decode.items? ofTree? (js.map toTree) = some (js.map id) := Decode.items?_map h
  rw [ofItems?_eq, toItems_eq, hmap, List.map_id]

/-- **Fields in order are read back** where each of them is. -/
theorem ofFields?_toFields (hmembers : ∀ e ∈ members, ofTree? e.2.toTree = some e.2)
    (hascending : (done ++ members).Pairwise fun x y => x.1 < y.1) :
    ofFields? done (toFields members) = some (done ++ members) := by
  induction members generalizing done with
  | nil => rw [toFields, ofFields?, List.append_nil]
  | cons e rest ih =>
    obtain ⟨k, j⟩ := e
    obtain ⟨hj, hrest⟩ := List.forall_mem_cons.mp hmembers
    have hlast : ∀ x ∈ done, x.1 < k := fun x hx =>
      (List.pairwise_append.mp hascending).2.2 x hx (k, j) List.mem_cons_self
    rw [List.append_cons] at hascending ⊢
    simp only [toFields, ofFields?, bodyText?_quoteBody, hj]
    rw [OrderedMap.insertEntry_of_last hlast]
    exact ih hrest hascending

/-! ## Documents that are read back -/

/-- A document nested no deeper than `room`, of numbers that are read back, with
the fields of each object in order. -/
inductive Stable : Nat → Json → Prop
  | null {room : Nat} : Stable room .null
  | bool {room : Nat} (b : Bool) : Stable room (.bool b)
  | number {room : Nat} {n : Number} : n.Stable → Stable room (.number n)
  | string {room : Nat} (s : String) : Stable room (.string s)
  | array {room : Nat} {items : List Json} : (∀ j ∈ items, Stable room j) →
      Stable (room + 1) (.array items)
  | object {room : Nat} {members : List (String × Json)} :
      (members.Pairwise fun x y => x.1 < y.1) → (∀ e ∈ members, Stable room e.2) →
      Stable (room + 1) (.object members)

theorem toTree_number {n : Number} (h : n.Stable) : (number n).toTree = .number n.toNumeral := by
  cases n with
  | integer z hlow hhigh => rfl
  | float x => rw [toTree, if_pos (h.finite x rfl)]

/-- Such a document is nested no deeper when it is written. -/
theorem Stable.depth_toTree_le (h : j.Stable room) : j.toTree.depth ≤ room := by
  induction h with
  | null => exact Nat.zero_le _
  | bool b => exact Nat.zero_le _
  | number hn =>
    rw [toTree_number hn]
    exact Nat.zero_le _
  | string s => exact Nat.zero_le _
  | array _ ih =>
    rw [toTree, Tree.depth, Nat.add_le_add_iff_right, Tree.depthItems_le_iff, toItems_eq,
      List.forall_mem_map]
    exact ih
  | object _ _ ih =>
    rw [toTree, Tree.depth, Nat.add_le_add_iff_right, Tree.depthFields_le_iff, toFields_eq,
      List.forall_mem_map]
    exact ih

theorem Stable.written_toTree (h : j.Stable room) : j.toTree.Written := by
  induction h with
  | null => exact .null
  | bool b => exact .bool b
  | number hn =>
    rw [toTree_number hn]
    exact .number hn.wellFormed
  | string s => exact .string s.toList
  | array _ ih =>
    rw [toTree, toItems_eq]
    exact .array (List.forall_mem_map.mpr ih)
  | object _ _ ih =>
    rw [toTree, toFields_eq]
    exact .object (List.forall_mem_map.mpr fun e _ => ⟨e.1.toList, rfl⟩)
      (List.forall_mem_map.mpr ih)

/-- **Such a document is read back.** -/
theorem Stable.ofTree?_toTree (h : j.Stable room) : ofTree? j.toTree = some j := by
  induction h with
  | null => rfl
  | bool b => rfl
  | number hn => rw [toTree_number hn, ofTree?, hn.reread, Option.map_some]
  | string s => rw [toTree, ofTree?, bodyText?_quoteBody, Option.map_some]
  | array _ ih => rw [toTree, ofTree?, ofItems?_toItems ih, Option.map_some]
  | @object _ members hascending _ ih =>
    have hfields : ofFields? [] (toFields members) = some ([] ++ members) :=
      ofFields?_toFields ih hascending
    rw [toTree, ofTree?, hfields, List.nil_append, Option.map_some]

/-- A tree whose numerals are integer literals of 64 bits with sign. -/
inductive Tree.Integral : Tree → Prop
  | null : Integral .null
  | bool (b : Bool) : Integral (.bool b)
  | number {n : Decimal.Numeral} : n.IsInt64 → Integral (.number n)
  | string (body : List Char) : Integral (.string body)
  | array {items : List Tree} : (∀ t ∈ items, Integral t) → Integral (.array items)
  | object {fields : List (List Char × Tree)} : (∀ f ∈ fields, Integral f.2) →
      Integral (.object fields)

/-- **What is read of integer literals is read back.** -/
theorem Tree.Integral.stable (ht : t.Integral) (hroom : t.depth ≤ room)
    (h : ofTree? t = some j) : j.Stable room := by
  induction ht generalizing room j with
  | null =>
    obtain rfl := Option.some.inj h
    exact .null
  | bool b =>
    obtain rfl := Option.some.inj h
    exact .bool b
  | number hn =>
    obtain ⟨number, hnumber, rfl⟩ := Option.map_eq_some_iff.mp h
    refine .number ?_
    rcases Number.ofNumeral?_of_isInt64 hn with hzero | ⟨i, hi⟩
    · obtain rfl := Option.some.inj (hnumber.symm.trans hzero)
      exact Number.stable_negativeZero
    · obtain rfl := Option.some.inj (hnumber.symm.trans hi)
      exact Number.stable_integer _ _ _
  | string body =>
    obtain ⟨s, -, rfl⟩ := Option.map_eq_some_iff.mp h
    exact .string s
  | array _ ih =>
    obtain ⟨js, hjs, rfl⟩ := Option.map_eq_some_iff.mp h
    cases room with
    | zero => exact absurd hroom (Nat.not_succ_le_zero _)
    | succ room =>
      have hdepth := depthItems_le_iff.mp (Nat.le_of_succ_le_succ hroom)
      rw [ofItems?_eq] at hjs
      exact .array (Decode.forall_of_items? (fun t ht _ hj => ih t ht (hdepth t ht) hj) hjs)
  | object _ ih =>
    obtain ⟨members, hmembers, rfl⟩ := Option.map_eq_some_iff.mp h
    cases room with
    | zero => exact absurd hroom (Nat.not_succ_le_zero _)
    | succ room =>
      have hdepth := depthFields_le_iff.mp (Nat.le_of_succ_le_succ hroom)
      exact .object (ascending_of_fields List.Pairwise.nil hmembers)
        (forall_members (List.forall_mem_nil _)
          (fun f hf _ hj => ih f hf (hdepth f hf) hj) hmembers)

end Json

end DataQuality
