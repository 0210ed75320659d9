import DataQuality.Json.Decode
import DataQuality.Proofs.Json.Scanning
import Mathlib.Data.List.Nodup
/-!
# Records — what is written field by field is decoded field by field

A record is told by all fields it may have, in the order in which they are
written, each with its tree if it is there (`Record`). Where no two fields
share a name the decoder finds the fields that are there and no others
(`fields_tree`), and each of them by its name (`find?_present`). So a decoder
of a record is inverse to its writer as soon as the decoders of the fields
are.
-/

namespace DataQuality

namespace Json

open Text (quoteBody)

variable {α β : Type} {room : Nat} {t : Tree} {name : String}

/-- **The body of a text is the text.** -/
@[simp] theorem bodyText?_quoteBody (s : String) : bodyText? (quoteBody s.toList) = some s := by
  rw [bodyText?, Text.unquoteBody?_quoteBody, Option.map_some, String.ofList_toList]

namespace Tree

/-- The tree of an object's field, by the name of the field. -/
def member? (name : String) : Tree → Option Tree
  | .object fields => (fields.find? fun f => bodyText? f.1 = some name).map Prod.snd
  | _ => none

/-- The names of an object's fields, as they are written. -/
def names : Tree → List (List Char)
  | .object fields => fields.map Prod.fst
  | _ => []

theorem written_ofString (s : String) : (ofString s).Written := .string s.toList

/-- A list is written where its elements are. -/
theorem written_array {encode : α → Tree} (items : List α) (h : ∀ a ∈ items, (encode a).Written) :
    (Tree.array (items.map encode)).Written := by
  refine .array fun t ht => ?_
  obtain ⟨a, ha, rfl⟩ := List.mem_map.mp ht
  exact h a ha

end Tree

namespace Decode

/-- **A written tree is decoded from its text** as the tree itself is. -/
theorem text?_text (h : t.Written) (decode : Decoder α) :
    text? decode t.text = decode nestingLimit t := by
  rw [text?, Tree.text, String.toList_ofList, h.ofText?_compact]
  rfl

@[simp] theorem string_ofString (room : Nat) (s : String) :
    string room (Tree.ofString s) = some s :=
  bodyText?_quoteBody s

/-- What is not null is there. -/
theorem optional_of_ne_null {decode : Decoder α} (h : t ≠ .null) :
    optional decode room t = (decode room t).map some :=
  optional.eq_2 decode room t h

/-! ### Lists -/

/-- Each item has its value among the values of all. -/
theorem mem_of_items? {decode : Tree → Option α} {items : List Tree} {values : List α}
    (h : items? decode items = some values) (ht : t ∈ items) :
    ∃ value ∈ values, decode t = some value := by
  induction items generalizing values with
  | nil => cases ht
  | cons u rest ih =>
    rw [items?] at h
    split at h
    · rename_i value values' hvalue hvalues
      obtain rfl := Option.some.inj h
      rcases List.mem_cons.mp ht with rfl | ht
      · exact ⟨value, List.mem_cons_self, hvalue⟩
      · obtain ⟨value', hmem', hvalue'⟩ := ih hvalues ht
        exact ⟨value', List.mem_cons_of_mem _ hmem', hvalue'⟩
    · cases h

/-- What holds of all that the items are decoded to holds of the values. -/
theorem forall_of_items? {P : α → Prop} {decode : Tree → Option α} {items : List Tree}
    {values : List α} (hitems : ∀ t ∈ items, ∀ a, decode t = some a → P a)
    (h : items? decode items = some values) : ∀ a ∈ values, P a := by
  induction items generalizing values with
  | nil =>
    obtain rfl := Option.some.inj h
    exact List.forall_mem_nil _
  | cons t rest ih =>
    obtain ⟨ht, hrest⟩ := List.forall_mem_cons.mp hitems
    rw [items?] at h
    split at h
    · rename_i value values' hvalue hvalues
      obtain rfl := Option.some.inj h
      exact List.forall_mem_cons.mpr ⟨ht value hvalue, ih hrest hvalues⟩
    · cases h

/-- Items are decoded one by one. -/
theorem items?_map {decode : Tree → Option β} {encode : α → Tree} {f : α → β} {items : List α}
    (h : ∀ a ∈ items, decode (encode a) = some (f a)) :
    items? decode (items.map encode) = some (items.map f) := by
  induction items with
  | nil => rfl
  | cons a rest ih =>
    obtain ⟨ha, hrest⟩ := List.forall_mem_cons.mp h
    simp only [List.map_cons, items?, ha, ih hrest]

/-- **A list is decoded element by element.** -/
theorem list_map {decode : Decoder β} {encode : α → Tree} {f : α → β} {items : List α}
    (h : ∀ a ∈ items, decode room (encode a) = some (f a)) :
    list decode (room + 1) (.array (items.map encode)) = some (items.map f) :=
  items?_map h

theorem list_array {decode : Decoder α} {encode : α → Tree} {items : List α}
    (h : ∀ a ∈ items, decode room (encode a) = some a) :
    list decode (room + 1) (.array (items.map encode)) = some items := by
  rw [list_map (f := id) h, List.map_id]

end Decode

/-- The fields a record may have, in the order in which they are written,
each with its tree if it is there. -/
abbrev Record := List (String × Option Tree)

namespace Record

open Decode (Fields Fields.find? pick fields)

variable {r : Record} {names : List String} {default a : α} {decode : Decoder α}

/-- The fields that are there. -/
def present (r : Record) : Fields := r.filterMap fun e => e.2.map (e.1, ·)

/-- A record as it is written: an object of the fields that are there. -/
def tree (r : Record) : Tree := .object (r.present.map fun f => (quoteBody f.1.toList, f.2))

theorem mem_present : (name, t) ∈ r.present ↔ (name, some t) ∈ r := by
  simp only [present, List.mem_filterMap, Option.map_eq_some_iff]
  constructor
  · rintro ⟨⟨name', o⟩, hmem, u, hu, heq⟩
    cases heq
    exact hu ▸ hmem
  · exact fun h => ⟨_, h, t, rfl, rfl⟩

/-- A field that is there is written where its tree is. -/
theorem written_some (h : t.Written) : ∀ u ∈ some t, u.Written := fun _ hu =>
  Option.some.inj hu ▸ h

/-- A field that may be absent is written where the trees of its values are. -/
theorem written_map {o : Option α} {encode : α → Tree} (h : ∀ a, (encode a).Written) :
    ∀ u ∈ o.map encode, u.Written := by
  intro u hu
  obtain ⟨a, -, rfl⟩ := Option.map_eq_some_iff.mp hu
  exact h a

/-- A record is written where its fields are. -/
theorem written_tree (h : ∀ e ∈ r, ∀ u ∈ e.2, u.Written) : r.tree.Written := by
  refine .object (fun f hf => ?_) fun f hf => ?_
  · obtain ⟨⟨name, t⟩, -, rfl⟩ := List.mem_map.mp hf
    exact ⟨name.toList, rfl⟩
  · obtain ⟨⟨name, t⟩, hmem, rfl⟩ := List.mem_map.mp hf
    exact h _ (mem_present.mp hmem) t rfl

/-- Where no two fields share a name, the fields that are there are picked. -/
theorem pick_present (hnodup : (r.map Prod.fst).Nodup) (hknown : ∀ e ∈ r, e.1 ∈ names) :
    pick names (r.present.map fun f => (quoteBody f.1.toList, f.2)) = some r.present := by
  induction r with
  | nil => rfl
  | cons e rest ih =>
    obtain ⟨name, o⟩ := e
    obtain ⟨hfresh, hrest⟩ := List.nodup_cons.mp hnodup
    have hpick := ih hrest fun e he => hknown e (List.mem_cons_of_mem _ he)
    cases o with
    | none => exact hpick
    | some t =>
      -- A later field with the name would share it with this one.
      have hany : (present rest).any (·.1 == name) = false := by
        rw [List.any_eq_false]
        rintro ⟨other, u⟩ hmem hother
        obtain rfl : other = name := eq_of_beq hother
        exact hfresh (List.mem_map.mpr ⟨_, mem_present.mp hmem, rfl⟩)
      have hcontains : names.contains name = true :=
        List.contains_iff_mem.mpr (hknown _ List.mem_cons_self)
      have hpresent : present ((name, some t) :: rest) = (name, t) :: present rest := rfl
      rw [hpresent, List.map_cons, pick]
      simp only [bodyText?_quoteBody, hpick]
      rw [if_pos hcontains, if_neg (by rw [hany]; exact Bool.false_ne_true)]

/-- **A record is taken apart into the fields that are there.** -/
theorem fields_tree (hnodup : (r.map Prod.fst).Nodup) :
    fields (r.map Prod.fst) (room + 1) r.tree = some (room, r.present) := by
  rw [tree, fields, pick_present hnodup fun e he => List.mem_map.mpr ⟨e, he, rfl⟩]
  rfl

theorem find?_present_eq_none (h : ∀ t, (name, some t) ∉ r) : r.present.find? name = none := by
  rw [Fields.find?, Option.map_eq_none_iff, List.find?_eq_none]
  rintro ⟨other, t⟩ hmem hother
  obtain rfl : other = name := eq_of_beq hother
  exact h t (mem_present.mp hmem)

/-- **A field is found by its name**, or found not to be there. -/
theorem find?_present {o : Option Tree} (hnodup : (r.map Prod.fst).Nodup) (h : (name, o) ∈ r) :
    r.present.find? name = o := by
  cases o with
  | none =>
    refine find?_present_eq_none fun t ht => ?_
    cases List.inj_on_of_nodup_map hnodup h ht rfl
  | some t =>
    cases hfind : List.find? (·.1 == name) r.present with
    | none =>
      have hother := List.find?_eq_none.mp hfind (name, t) (mem_present.mpr h)
      exact absurd (BEq.rfl (a := name)) hother
    | some f =>
      obtain ⟨other, u⟩ := f
      have hmem := mem_present.mp (List.mem_of_find?_eq_some hfind)
      have hother := List.find?_some hfind
      obtain rfl : other = name := eq_of_beq hother
      have heq := List.inj_on_of_nodup_map hnodup h hmem rfl
      rw [Fields.find?, hfind]
      exact congrArg Prod.snd heq.symm

/-- Of two records one after the other, the first one is asked first. -/
theorem find?_present_append (r r' : Record) : (present (r ++ r')).find? name =
    (r.present.find? name).or (r'.present.find? name) := by
  rw [present, List.filterMap_append, Fields.find?, List.find?_append, Option.map_or]
  rfl

/-- **The members of a record's tree are the fields that are there.** -/
theorem member?_tree : r.tree.member? name = r.present.find? name := by
  have hname : (fun f : List Char × Tree => decide (bodyText? f.1 = some name)) ∘
      (fun f : String × Tree => (quoteBody f.1.toList, f.2)) = (·.1 == name) := by
    funext f
    simp [Bool.beq_eq_decide_eq]
  rw [tree, Tree.member?, List.find?_map, hname, Option.map_map, Fields.find?]
  rfl

/-! ## Fields -/

/-- A field that must be there is decoded. -/
theorem required_present (hnodup : (r.map Prod.fst).Nodup) (h : (name, some t) ∈ r) :
    r.present.required room name decode = decode room t := by
  rw [Fields.required, find?_present hnodup h]
  rfl

/-- A field that is always written is decoded, whatever its default is. -/
theorem withDefault_present (hnodup : (r.map Prod.fst).Nodup) (h : (name, some t) ∈ r) :
    r.present.withDefault room name default decode = decode room t := by
  rw [Fields.withDefault, find?_present hnodup h]

/-- **A field that is written only when there is a value is decoded to the
value or to its absence.** -/
theorem optional_present {o : Option α} (encode : α → Tree) (hnodup : (r.map Prod.fst).Nodup)
    (h : (name, o.map encode) ∈ r) (hnull : ∀ a ∈ o, encode a ≠ .null)
    (hdecode : ∀ a ∈ o, decode room (encode a) = some a) :
    r.present.withDefault room name none (Decode.optional decode) = some o := by
  rw [Fields.withDefault, find?_present hnodup h]
  cases o with
  | none => rfl
  | some a =>
    have ha : decode room (encode a) = some a := hdecode a rfl
    simp only [Option.map_some]
    rw [Decode.optional_of_ne_null (hnull a rfl), ha]
    rfl

end Record

end Json

end DataQuality
