import DataQuality.Proofs.Json.Documents
import DataQuality.Proofs.Time.Rfc3339
import DataQuality.Value.Codec
/-!
# Reloading — a value that is loaded from a text is read back

What is loaded from a text of integer literals (`Loaded`) is written and read
again as what it was, but for documents that have a string for their `message`:
these are read back as errors (`reloaded`). An object with one such field is
loaded as the error in the first place, so in a text these documents are the
objects that repeat the field (`Json.Tree.HidesMessage`). They are all that
loading twice can change (`parse?_jsonText`).
-/

namespace DataQuality

open Json (Tree)
open Text (quoteBody)

namespace Value

variable {room : Nat} {v : Value} {values : List Value} {message : String}
  {fields : List (List Char × Tree)} {members : List (String × Json)}

/-! ## Objects -/

/-- An object has the form of an error if it has one field `message` and this is
a string. -/
theorem errorMessage?_eq_some_iff : errorMessage? fields = some message ↔
    ∃ k body, Json.named "message" fields = [(k, .string body)] ∧
      Json.bodyText? body = some message := by
  have hfilter : Json.named "message" fields =
      fields.filter fun f => Json.bodyText? f.1 == some "message" := rfl
  rw [hfilter, errorMessage?]
  constructor
  · intro h
    split at h
    · rename_i k body hnamed
      exact ⟨k, body, hnamed, h⟩
    · cases h
  · rintro ⟨k, body, hnamed, hbody⟩
    rw [hnamed]
    exact hbody

/-- An object with the form of an error has a field `message` that is its
message. -/
theorem lookup_message (hmessage : errorMessage? fields = some message)
    (h : Json.ofTree? (.object fields) = some (.object members)) :
    OrderedMap.lookup "message" members = some (.string message) := by
  obtain ⟨members', hmembers, heq⟩ := Option.map_eq_some_iff.mp h
  obtain rfl := Json.object.inj heq
  obtain ⟨k, body, hnamed, hbody⟩ := errorMessage?_eq_some_iff.mp hmessage
  rw [Json.lookup_of_fields "message" hmembers, hnamed]
  change Json.ofTree? (.string body) = _
  rw [Json.ofTree?, hbody, Option.map_some]

theorem ofTree?_document {j : Json} (hplain : errorMessage? fields = none)
    (h : Json.ofTree? (.object fields) = some j) : ofTree? (.object fields) = some (.json j) := by
  simp only [ofTree?, h, hplain]

theorem ofTree?_error {j : Json} (herror : errorMessage? fields = some message)
    (h : Json.ofTree? (.object fields) = some j) :
    ofTree? (.object fields) = some (.error message) := by
  simp only [ofTree?, h, herror]

/-- **An object is read as an error or as a document.** -/
theorem ofTree?_object {v : Value} (h : ofTree? (.object fields) = some v) :
    ∃ members, Json.ofTree? (.object fields) = some (.object members) ∧
      v = match errorMessage? fields with
        | some message => .error message
        | none => .json (.object members) := by
  have hjson : ∃ j, Json.ofTree? (.object fields) = some j := by
    rw [ofTree?] at h
    split at h
    · cases h
    · exact ⟨_, by assumption⟩
  obtain ⟨j, hj⟩ := hjson
  obtain ⟨members, -, rfl⟩ := Option.map_eq_some_iff.mp hj
  refine ⟨members, hj, ?_⟩
  cases herror : errorMessage? fields with
  | some message =>
    rw [ofTree?_error herror hj] at h
    exact (Option.some.inj h).symm
  | none =>
    rw [ofTree?_document herror hj] at h
    exact (Option.some.inj h).symm

/-! ## What is loaded -/

theorem ofNumber_ofInt64 (n : Int64) : ofNumber (.ofInt64 n) = int n := by
  have hsigned : n.toInt < 9223372036854775808 := n.toInt_lt
  rw [ofNumber, Json.Number.ofInt64, Json.Number.toInt64?, if_pos hsigned, Int64.ofInt_toInt]

/-- An integer is read back. -/
theorem ofTree?_int (n : Int64) : ofTree? (int n).toTree = some (int n) := by
  have hsigned : n.toInt < 9223372036854775808 := n.toInt_lt
  have hnumber := Json.Number.ofNumeral?_ofInt n.le_toInt (by omega)
  rw [toTree, ofTree?, hnumber, Option.map_some]
  exact congrArg some (ofNumber_ofInt64 n)

/-- The negative zero is written with a point, as the float that it is. -/
theorem toTree_negativeZero :
    toTree (float (-0.0)) = .number (Json.Number.toNumeral (.float (-0.0))) := by
  rw [toTree, Tree.ofFloat, if_pos (Json.Number.stable_negativeZero.finite _ rfl)]
  rfl

theorem ofItems?_eq (items : List Tree) :
    ofItems? items = Json.Decode.items? ofTree? items := by
  induction items with
  | nil => rfl
  | cons t rest ih =>
    rw [ofItems?, Json.Decode.items?, ih]
    cases ofTree? t <;> cases Json.Decode.items? ofTree? rest <;> rfl

theorem toItems_eq (values : List Value) : toItems values = values.map toTree := by
  induction values with
  | nil => rfl
  | cons v rest ih => rw [toItems, ih, List.map_cons]

/-- What is loaded from integer literals, nested no deeper than `room`: strings
are no date-times, and documents are objects. -/
inductive Loaded : Nat → Value → Prop
  | null {room : Nat} : Loaded room .null
  | bool {room : Nat} (b : Bool) : Loaded room (.bool b)
  | int {room : Nat} (n : Int64) : Loaded room (.int n)
  | negativeZero {room : Nat} : Loaded room (.float (-0.0))
  | dateTime {room : Nat} (t : Time.Instant) : Loaded room (.dateTime t)
  | string {room : Nat} {s : String} : Time.Instant.ofText? s.toList = none →
      Loaded room (.string s)
  | array {room : Nat} {values : List Value} : (∀ v ∈ values, Loaded room v) →
      Loaded (room + 1) (.array values)
  | error {room : Nat} (message : String) : Loaded (room + 1) (.error message)
  | document {room : Nat} {members : List (String × Json)} :
      (Json.object members).Stable room → Loaded room (.json (.object members))

/-- **What is loaded from integer literals.** -/
theorem loaded_of_tree {t : Tree} (ht : t.Integral) (hroom : t.depth ≤ room)
    (h : ofTree? t = some v) : v.Loaded room := by
  induction ht generalizing room v with
  | null =>
    obtain rfl := Option.some.inj h
    exact .null
  | bool b =>
    obtain rfl := Option.some.inj h
    exact .bool b
  | number hn =>
    obtain ⟨number, hnumber, rfl⟩ := Option.map_eq_some_iff.mp h
    rcases Json.Number.ofNumeral?_of_isInt64 hn with hzero | ⟨i, hi⟩
    · obtain rfl := Option.some.inj (hnumber.symm.trans hzero)
      exact .negativeZero
    · obtain rfl := Option.some.inj (hnumber.symm.trans hi)
      rw [ofNumber_ofInt64]
      exact .int i
  | string body =>
    obtain ⟨s, -, rfl⟩ := Option.map_eq_some_iff.mp h
    cases htext : Time.Instant.ofText? s.toList with
    | some t =>
      rw [ofText, htext]
      exact .dateTime t
    | none =>
      rw [ofText, htext]
      exact .string htext
  | array _ ih =>
    obtain ⟨values, hvalues, rfl⟩ := Option.map_eq_some_iff.mp h
    cases room with
    | zero => exact absurd hroom (Nat.not_succ_le_zero _)
    | succ room =>
      have hdepth := Tree.depthItems_le_iff.mp (Nat.le_of_succ_le_succ hroom)
      rw [ofItems?_eq] at hvalues
      exact .array (Json.Decode.forall_of_items?
        (fun t ht _ hv => ih t ht (hdepth t ht) hv) hvalues)
  | object hfields _ =>
    obtain ⟨members, hmembers, rfl⟩ := ofTree?_object h
    split
    · cases room with
      | zero => exact absurd hroom (Nat.not_succ_le_zero _)
      | succ room => exact .error _
    · exact .document ((Tree.Integral.object hfields).stable hroom hmembers)

/-! ## What is read back -/

mutual

/-- What a loaded value is read back as: a document that has a string for its
`message` as an error. -/
def reloaded : Value → Value
  | json (.object members) =>
    match OrderedMap.lookup "message" members with
    | some (.string message) => error message
    | _ => json (.object members)
  | array values => array (reloadedItems values)
  | v => v

/-- What the items are read back as. -/
def reloadedItems : List Value → List Value
  | [] => []
  | v :: rest => reloaded v :: reloadedItems rest

end

theorem reloadedItems_eq (values : List Value) : reloadedItems values = values.map reloaded := by
  induction values with
  | nil => rfl
  | cons v rest ih => rw [reloadedItems, ih, List.map_cons]

theorem reloaded_of_message (h : OrderedMap.lookup "message" members = some (.string message)) :
    reloaded (json (.object members)) = error message := by
  rw [reloaded, h]

theorem reloaded_of_no_message
    (h : ∀ message, OrderedMap.lookup "message" members ≠ some (.string message)) :
    reloaded (json (.object members)) = json (.object members) := by
  rw [reloaded]
  split
  · rename_i message hmessage
    exact absurd hmessage (h message)
  · rfl

/-- A document is written in the form of an error if it has a string for its
`message`. -/
theorem errorMessage?_toFields (hascending : members.Pairwise fun x y => x.1 < y.1) :
    errorMessage? (Json.toFields members) = some message ↔
      OrderedMap.lookup "message" members = some (.string message) := by
  have hnamed := Json.named_toFields "message" hascending
  rw [errorMessage?_eq_some_iff, hnamed]
  constructor
  · rintro ⟨k, body, heq, hbody⟩
    split at heq
    · rename_i j hlookup
      obtain ⟨hfield, -⟩ := List.cons.inj heq
      obtain ⟨s, rfl, rfl⟩ := Json.exists_string_of_toTree (Prod.mk.inj hfield).2
      rw [Json.bodyText?_quoteBody] at hbody
      rw [hlookup, Option.some.inj hbody]
    · cases heq
  · intro hlookup
    rw [hlookup]
    exact ⟨_, _, rfl, Json.bodyText?_quoteBody message⟩

/-- **A document that comes back is read back as an error or as itself.** -/
theorem ofTree?_toTree_document (h : (Json.object members).Stable room) :
    ofTree? (json (.object members)).toTree = some (reloaded (json (.object members))) := by
  have hjson : Json.ofTree? (.object (Json.toFields members)) = some (.object members) :=
    h.ofTree?_toTree
  have hascending : members.Pairwise fun x y => x.1 < y.1 := by
    cases h with
    | object hascending _ => exact hascending
  change ofTree? (.object (Json.toFields members)) = _
  cases hmessage : errorMessage? (Json.toFields members) with
  | some message =>
    rw [ofTree?_error hmessage hjson,
      reloaded_of_message ((errorMessage?_toFields hascending).mp hmessage)]
  | none =>
    have hnone : ∀ message, OrderedMap.lookup "message" members ≠ some (.string message) := by
      intro message hlookup
      rw [(errorMessage?_toFields hascending).mpr hlookup] at hmessage
      cases hmessage
    rw [ofTree?_document hmessage hjson, reloaded_of_no_message hnone]

/-- An error is written as the document with its message. -/
theorem stable_message (room : Nat) (message : String) :
    (Json.object [("message", .string message)]).Stable (room + 1) :=
  .object (List.pairwise_singleton _ _) (List.forall_mem_singleton.mpr (.string message))

/-! ## Loading twice -/

/-- A loaded value is nested no deeper when it is written. -/
theorem Loaded.depth_toTree_le (h : v.Loaded room) : v.toTree.depth ≤ room := by
  induction h with
  | null | bool _ | int _ | dateTime _ | string _ => exact Nat.zero_le _
  | negativeZero =>
    rw [toTree_negativeZero]
    exact Nat.zero_le _
  | array _ ih =>
    rw [toTree, Tree.depth, Nat.add_le_add_iff_right, Tree.depthItems_le_iff, toItems_eq,
      List.forall_mem_map]
    exact ih
  | error message => exact (stable_message _ message).depth_toTree_le
  | document hstable => exact hstable.depth_toTree_le

theorem Loaded.written_toTree (h : v.Loaded room) : v.toTree.Written := by
  induction h with
  | null => exact .null
  | bool b => exact .bool b
  | int n => exact .number (Decimal.Numeral.wellFormed_ofInt n.toInt)
  | negativeZero =>
    rw [toTree_negativeZero]
    exact .number Json.Number.stable_negativeZero.wellFormed
  | dateTime t => exact .string (t.text "Z")
  | @string _ s _ => exact .string s.toList
  | array _ ih =>
    rw [toTree, toItems_eq]
    exact .array (List.forall_mem_map.mpr ih)
  | @error room message => exact (stable_message room message).written_toTree
  | document hstable => exact hstable.written_toTree

/-- **A loaded value is read back.** -/
theorem Loaded.ofTree?_toTree (h : v.Loaded room) : ofTree? v.toTree = some v.reloaded := by
  induction h with
  | null => rfl
  | bool b => rfl
  | int n => exact ofTree?_int n
  | negativeZero =>
    rw [toTree_negativeZero, ofTree?, Json.Number.stable_negativeZero.reread]
    rfl
  | dateTime t =>
    have hbody := Json.bodyText?_quoteBody (String.ofList (t.text "Z"))
    rw [String.toList_ofList] at hbody
    rw [toTree, ofTree?, hbody, Option.map_some, ofText, String.toList_ofList,
      Time.Instant.ofText?_text]
    rfl
  | string hs =>
    rw [toTree, Tree.ofString, ofTree?, Json.bodyText?_quoteBody, Option.map_some, ofText, hs]
    rfl
  | array _ ih =>
    rw [toTree, ofTree?, ofItems?_eq, toItems_eq, Json.Decode.items?_map ih, reloaded,
      reloadedItems_eq]
    rfl
  | @error room message => exact ofTree?_toTree_document (stable_message room message)
  | document hstable => exact ofTree?_toTree_document hstable

theorem sameItems_self (h : ∀ v ∈ values, (v == v) = true) : sameItems values values = true := by
  induction values with
  | nil => rfl
  | cons v rest ih =>
    obtain ⟨hv, hrest⟩ := List.forall_mem_cons.mp h
    rw [sameItems, ih hrest, Bool.and_true]
    exact hv

/-- A loaded value is equal to itself. -/
theorem Loaded.beq_self (h : v.Loaded room) : (v == v) = true := by
  induction h with
  | null => rfl
  | bool b => exact beq_self_eq_true b
  | int n => exact beq_self_eq_true n
  | negativeZero => decide
  | dateTime t => exact beq_self_eq_true t
  | @string _ s _ => exact beq_self_eq_true s
  | array _ ih => exact sameItems_self ih
  | error message => exact beq_self_eq_true message
  | document hstable => exact Json.beq_self_of_tree hstable.ofTree?_toTree

end Value

/-- Somewhere in the text, but not inside of another object, stands an object
that repeats its field `message`, with a string the last time. -/
inductive Json.Tree.HidesMessage : Tree → Prop
  | object {fields : List (List Char × Tree)} {k body : List Char} :
      2 ≤ (Json.named "message" fields).length →
      (Json.named "message" fields).getLast? = some (k, .string body) →
      HidesMessage (.object fields)
  | item {items : List Tree} {t : Tree} : t ∈ items → HidesMessage t → HidesMessage (.array items)

namespace Value

/-- **A message is hidden where an object is loaded as a document that has a
string for its `message`.** -/
theorem hidesMessage_object_iff
    (h : Json.ofTree? (.object fields) = some (.object members)) :
    Tree.HidesMessage (.object fields) ↔ errorMessage? fields = none ∧
      ∃ message, OrderedMap.lookup "message" members = some (.string message) := by
  obtain ⟨members', hmembers, heq⟩ := Option.map_eq_some_iff.mp h
  obtain rfl := Json.object.inj heq
  rw [Json.lookup_of_fields "message" hmembers]
  constructor
  · intro hides
    cases hides with
    | @object _ k body hrepeated hlast =>
      have hnone : errorMessage? fields = none := by
        refine Option.eq_none_iff_forall_ne_some.mpr fun message hmessage => ?_
        obtain ⟨_, _, hnamed, -⟩ := errorMessage?_eq_some_iff.mp hmessage
        rw [hnamed, List.length_singleton] at hrepeated
        omega
      have hmem : (k, .string body) ∈ fields :=
        List.mem_of_mem_filter (List.mem_of_getLast? hlast)
      obtain ⟨j, hj⟩ := Json.exists_of_fields hmembers hmem
      obtain ⟨message, -, rfl⟩ := Option.map_eq_some_iff.mp hj
      rw [hlast]
      exact ⟨hnone, message, hj⟩
  · rintro ⟨hnone, message, hmessage⟩
    cases hlast : (Json.named "message" fields).getLast? with
    | none =>
      rw [hlast] at hmessage
      cases hmessage
    | some f =>
      rw [hlast] at hmessage
      obtain ⟨k, t⟩ := f
      obtain ⟨body, rfl, hbody⟩ := Json.exists_body_of_string hmessage
      refine .object (Nat.lt_of_not_le fun hle => ?_) hlast
      -- A string that is the only `message` would make the object an error.
      have hnamed : Json.named "message" fields = [(k, .string body)] := by
        obtain ⟨front, hfront⟩ := List.getLast?_eq_some_iff.mp hlast
        rw [hfront, List.length_append, List.length_singleton] at hle
        have hempty : front = [] := List.length_eq_zero_iff.mp (by omega)
        rw [hfront, hempty, List.nil_append]
      have hsome := errorMessage?_eq_some_iff.mpr ⟨k, body, hnamed, hbody⟩
      rw [hnone] at hsome
      cases hsome

/-- **Where no message is hidden the value comes back.** -/
theorem reloaded_eq_self {t : Tree} (ht : t.Integral) (hplain : ¬t.HidesMessage)
    (h : ofTree? t = some v) : v.reloaded = v := by
  induction ht generalizing v with
  | null =>
    obtain rfl := Option.some.inj h
    rfl
  | bool b =>
    obtain rfl := Option.some.inj h
    rfl
  | number _ =>
    obtain ⟨number, -, rfl⟩ := Option.map_eq_some_iff.mp h
    rw [ofNumber]
    split <;> rfl
  | string body =>
    obtain ⟨s, -, rfl⟩ := Option.map_eq_some_iff.mp h
    rw [ofText]
    split <;> rfl
  | array _ ih =>
    obtain ⟨values, hvalues, rfl⟩ := Option.map_eq_some_iff.mp h
    rw [ofItems?_eq] at hvalues
    have hself : ∀ v ∈ values, v.reloaded = v := Json.Decode.forall_of_items?
      (fun t ht v hv => ih t ht (fun hides => hplain (.item ht hides)) hv) hvalues
    rw [reloaded, reloadedItems_eq, List.map_congr_left hself, List.map_id']
  | object _ _ =>
    obtain ⟨members, hmembers, rfl⟩ := ofTree?_object h
    split
    · rfl
    · rename_i hnone
      refine reloaded_of_no_message fun message hmessage => hplain ?_
      exact (hidesMessage_object_iff hmembers).mpr ⟨hnone, message, hmessage⟩

theorem sameItems_reloadedItems (hv : v ∈ values) (h : (v.reloaded == v) = false) :
    sameItems (reloadedItems values) values = false := by
  induction values with
  | nil => cases hv
  | cons u rest ih =>
    rw [reloadedItems, sameItems, Bool.and_eq_false_iff]
    rcases List.mem_cons.mp hv with rfl | hv
    · exact .inl h
    · exact .inr (ih hv)

/-- **Where a message is hidden the value that comes back is another.** -/
theorem reloaded_ne_self {t : Tree} (hides : t.HidesMessage) (h : ofTree? t = some v) :
    (v.reloaded == v) = false := by
  induction hides generalizing v with
  | object hrepeated hlast =>
    obtain ⟨members, hmembers, rfl⟩ := ofTree?_object h
    obtain ⟨hnone, message, hmessage⟩ :=
      (hidesMessage_object_iff hmembers).mp (.object hrepeated hlast)
    rw [hnone, reloaded_of_message hmessage]
    rfl
  | item ht _ ih =>
    obtain ⟨values, hvalues, rfl⟩ := Option.map_eq_some_iff.mp h
    rw [ofItems?_eq] at hvalues
    obtain ⟨u, hu, hvalue⟩ := Json.Decode.mem_of_items? hvalues ht
    rw [reloaded]
    exact sameItems_reloadedItems hu (ih hvalue)

/-- **Reloading a loaded value is stable but for hidden messages.** What a text
of integer literals is loaded as is written as a text that is loaded again. If
no message is hidden it is loaded as an equal value, and otherwise as another:
each document that hides a message comes back as the error with the message. -/
theorem parse?_jsonText {s : String} {t : Tree} (ht : Tree.ofText? s.toList = some t)
    (hintegral : t.Integral) (h : parse? s = some v) :
    parse? v.jsonText = some v.reloaded ∧
      (¬t.HidesMessage → v.reloaded = v ∧ (v == v) = true) ∧
      (t.HidesMessage → (v.reloaded == v) = false) := by
  rw [parse?, Json.Decode.text?, ht] at h
  change decode Json.nestingLimit t = some v at h
  rw [decode] at h
  split at h
  · rename_i hdepth
    have hloaded := loaded_of_tree hintegral hdepth h
    refine ⟨?_, fun hplain => ?_, fun hides => reloaded_ne_self hides h⟩
    · rw [parse?, jsonText, Json.Decode.text?_text hloaded.written_toTree, decode,
        if_pos hloaded.depth_toTree_le, hloaded.ofTree?_toTree]
    · exact ⟨reloaded_eq_self hintegral hplain h, hloaded.beq_self⟩
  · cases h

/-! ## Notes -/

/-- A note as an object that gives its message, and may give it again. -/
def note (messages : List Tree) : Tree :=
  .object (messages.map fun t => (quoteBody "message".toList, t))

variable {messages : List Tree}

theorem written_note (h : ∀ t ∈ messages, t.Written) : (note messages).Written :=
  .object (List.forall_mem_map.mpr fun _ _ => ⟨"message".toList, rfl⟩) (List.forall_mem_map.mpr h)

theorem integral_note (h : ∀ t ∈ messages, t.Integral) : (note messages).Integral :=
  .object (List.forall_mem_map.mpr h)

theorem ofText?_note (h : ∀ t ∈ messages, t.Written) :
    Tree.ofText? (note messages).text.toList = some (note messages) := by
  rw [Tree.text, String.toList_ofList, (written_note h).ofText?_compact]

/-- A note is loaded as its object is. -/
theorem parse?_note (h : ∀ t ∈ messages, t.Written) (hroom : (note messages).depth ≤ 127) :
    parse? (note messages).text = ofTree? (note messages) := by
  rw [parse?, Json.Decode.text?_text (written_note h), decode]
  exact if_pos hroom

/-- A message that is given again as no string hides nothing: the document comes
back. -/
theorem later_message_comes_back :
    let s := "\x7b\"message\":\"moved\",\"message\":true\x7d"
    let t := note [Tree.ofString "moved", .bool true]
    let v := json (.object [("message", .bool true)])
    Tree.ofText? s.toList = some t ∧ t.Integral ∧ parse? s = some v ∧ ¬t.HidesMessage ∧
      parse? v.jsonText = some v ∧ (v == v) = true := by
  intro s t v
  have hwritten : ∀ u ∈ [Tree.ofString "moved", .bool true], u.Written :=
    List.forall_mem_cons.mpr ⟨Tree.written_ofString "moved",
      List.forall_mem_singleton.mpr (.bool true)⟩
  have hintegral : t.Integral := integral_note (List.forall_mem_cons.mpr
    ⟨.string "moved".toList, List.forall_mem_singleton.mpr (.bool true)⟩)
  have htext : t.text = s := by decide
  have htree : Tree.ofText? s.toList = some t := htext ▸ ofText?_note hwritten
  have hvalue : parse? s = some v := by
    rw [← htext, parse?_note hwritten (by decide)]
    rfl
  have hplain : ¬(note [Tree.ofString "moved", .bool true]).HidesMessage := by
    intro hides
    cases hides with
    | object _ hlast => cases hlast
  obtain ⟨hread, hstable, -⟩ := parse?_jsonText htree hintegral hvalue
  obtain ⟨hself, hequal⟩ := hstable hplain
  rw [hself] at hread
  exact ⟨htree, hintegral, hvalue, hplain, hread, hequal⟩

/-- A message that is given again as a string is hidden: the document comes back
as an error. -/
theorem repeated_message_is_hidden :
    let s := "\x7b\"message\":\"open\",\"message\":\"moved\"\x7d"
    let t := note [Tree.ofString "open", Tree.ofString "moved"]
    let v := json (.object [("message", .string "moved")])
    Tree.ofText? s.toList = some t ∧ t.Integral ∧ parse? s = some v ∧
      parse? v.jsonText = some (error "moved") ∧ (error "moved" == v) = false := by
  intro s t v
  have hwritten : ∀ u ∈ [Tree.ofString "open", Tree.ofString "moved"], u.Written :=
    List.forall_mem_cons.mpr ⟨Tree.written_ofString "open",
      List.forall_mem_singleton.mpr (Tree.written_ofString "moved")⟩
  have hagain : ∀ u ∈ [Tree.ofString "moved"], u.Written :=
    List.forall_mem_singleton.mpr (Tree.written_ofString "moved")
  have hintegral : t.Integral := integral_note (List.forall_mem_cons.mpr
    ⟨.string "open".toList, List.forall_mem_singleton.mpr (.string "moved".toList)⟩)
  have htext : t.text = s := by decide
  have htextAgain : (note [Tree.ofString "moved"]).text = v.jsonText := by decide
  refine ⟨htext ▸ ofText?_note hwritten, hintegral, ?_, ?_, rfl⟩
  · rw [← htext, parse?_note hwritten (by decide)]
    rfl
  · rw [← htextAgain, parse?_note hagain (by decide)]
    rfl

end Value

end DataQuality
