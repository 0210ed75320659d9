import DataQuality.Proofs.RowFilter.Integers
import DataQuality.Proofs.Value.Reloading
import DataQuality.RowFilter.Definition
/-!
# Objects — literals that are documents

A filter that is read from a text lists its literals as JSON, and takes an
object for a document, unless it has the form in which an error is written: a
field `message`, written once, that is a string (`Value.errorMessage?`).
Whatever is read is equal to itself (`Json.beq_self_of_tree`), so a document is
selected by the literal it is written as. An object with the form of an error is
read as the error, for which nothing is selected
(`RowFilterDefinition.object_literal_selects_itself`).
-/

namespace DataQuality

namespace Value

variable {message : String} {members : List (String × Json)}

/-- A document that is an object matches the literals equal to it. -/
theorem matchesLiteral_object {literal : Value} :
    (json (.object members)).matchesLiteral literal = (json (.object members) == literal) := by
  cases literal with
  | json j => cases j <;> rfl
  | _ => rfl

theorem agrees_error {v : Value} (h : v.isError = false) : v.agrees (.error message) = false := by
  cases v with
  | error _ => cases h
  | json j => cases j <;> rfl
  | _ => rfl

/-- No data matches an error. -/
theorem matchesLiteral_error {v : Value} (h : v.isData = true) :
    v.matchesLiteral (.error message) = false := by
  have herror : v.isError = false := isError_of_isData h
  rw [matchesLiteral.eq_def]
  split
  · rename_i j
    split
    · rename_i plain hplain
      exact agrees_error (isError_of_plain (ofScalar_eq_ok_iff.mp hplain))
    · exact agrees_error herror
  · exact agrees_error herror

end Value

namespace RowFilter

variable {f : RowFilter} {members : List (String × Json)}

/-- A result that is an object is selected by the literals equal to it. -/
theorem selectsResult_object : f.selectsResult (.json (.object members)) =
    f.literals.any (.json (.object members) == ·) := by
  change f.selects (.json (.object members)) = _
  rw [selects_of_isData rfl]
  exact congrArg f.literals.any (funext fun _ => Value.matchesLiteral_object)

theorem selects_error_literal (f : RowFilter) (message : String) (v : Value) :
    (f.withCriteria [.error message] false false).selects v = false := by
  by_cases herror : v.isError = true
  · exact selects_of_isError herror
  by_cases hdata : v.isData = true
  · rw [selects_of_isData hdata]
    change [Value.error message].any v.matchesLiteral = false
    rw [List.any_cons, Value.matchesLiteral_error hdata]
    rfl
  · exact selects_of_blank herror hdata

/-- **For an error as a literal nothing is selected**, whatever the result. -/
theorem not_accepts_error_literal (f : RowFilter) (message : String) (project : Project)
    (index : Nat) (row : Row) :
    ¬(f.withCriteria [.error message] false false).Accepts project index row := by
  intro haccepts
  -- A result is selected by itself or by one of its elements, and neither is.
  obtain ⟨b, v, -, -, hselected, -⟩ := accepts_withCriteria_iff.mp haccepts
  obtain ⟨values, hvalues⟩ := selectsResult_eq_any v
  rw [hvalues, List.any_eq_true] at hselected
  obtain ⟨value, -, hvalue⟩ := hselected
  rw [selects_error_literal] at hvalue
  cases hvalue

/-- A filter that binds rows plainly binds every row. -/
theorem exists_sees (hbinder : f.binder = Binder.plain) (project : Project) (index : Nat)
    (row : Row) : ∃ b, f.Sees project index row b := by
  simp only [Sees, hbinder]
  exact ⟨_, rfl⟩

end RowFilter

namespace RowFilterDefinition

open Json (Tree)
open Json.Record (fields_tree find?_present optional_present required_present
  withDefault_present written_map written_some written_tree)

variable {d : RowFilterDefinition} {f : RowFilter} {project : Project} {compiler : Compiler}

/-- The names of the fields of a definition. -/
def fieldNames : List String :=
  ["expression", "column", "matches", "selectBlank", "selectError", "invert"]

/-- The tree stands among the literals of the definition that is written. -/
def Lists (text : String) (item : Tree) : Prop :=
  ∃ t room found items, Tree.ofText? text.toList = some t ∧
    Json.Decode.fields fieldNames Json.nestingLimit t = some (room, found) ∧
    found.find? "matches" = some (.array items) ∧ item ∈ items

/-- **A listed tree is read as one of the literals.** -/
theorem exists_literal_of_lists {text : String} {item : Tree} (hlists : Lists text item)
    (hread : parse? text = some d) : ∃ literal ∈ d.literals, Value.ofTree? item = some literal := by
  obtain ⟨t, room, found, items, htree, hfields, hfound, hmem⟩ := hlists
  rw [parse?, Json.Decode.text?, htree] at hread
  change decode Json.nestingLimit t = some d at hread
  -- A definition is read field by field; only what became of `matches` is kept.
  simp only [decode, bind, Option.bind_eq_some_iff] at hread
  obtain ⟨⟨room', found'⟩, hfields', _, -, _, -, literals, hliterals, _, -, _, -, _, -, hd⟩ := hread
  obtain ⟨rfl, rfl⟩ := Prod.mk.inj (Option.some.inj (hfields'.symm.trans hfields))
  obtain rfl := Option.some.inj hd
  simp only [Json.Decode.Fields.withDefault, hfound] at hliterals
  cases room' with
  | zero => cases hliterals
  | succ room =>
    obtain ⟨literal, hliteral, hdecode⟩ := Json.Decode.mem_of_items? hliterals hmem
    refine ⟨literal, hliteral, ?_⟩
    rw [Value.decode] at hdecode
    split at hdecode
    · exact hdecode
    · cases hdecode

/-- What is built has the literals of the definition and binds rows plainly. -/
theorem of_build (h : d.build project compiler = .ok f) :
    f.literals = d.literals ∧ f.inverted = d.inverted ∧ f.binder = Binder.plain := by
  rw [build] at h
  split at h
  · cases h
  · simp only at h
    split at h
    · obtain rfl := Except.ok.inj h
      exact ⟨rfl, rfl, rfl⟩
    · split at h
      · obtain rfl := Except.ok.inj h
        exact ⟨rfl, rfl, rfl⟩
      · cases h

/-! ## Definitions as they are written -/

/-- The fields of a definition. -/
def record (d : RowFilterDefinition) : Json.Record :=
  [("expression", some (Tree.ofString d.expression)), ("column", d.column.map Tree.ofString),
    ("matches", some (.array (d.literals.map Value.toTree))),
    ("selectBlank", some (.bool d.selectsBlank)), ("selectError", some (.bool d.selectsError)),
    ("invert", some (.bool d.inverted))]

theorem toTree_eq (d : RowFilterDefinition) : d.toTree = d.record.tree := by
  rw [toTree, record]
  cases d.column <;> rfl

theorem nodup_record (d : RowFilterDefinition) : (d.record.map Prod.fst).Nodup := by
  change fieldNames.Nodup
  decide

theorem fields_toTree (d : RowFilterDefinition) (room : Nat) :
    Json.Decode.fields fieldNames (room + 1) d.toTree = some (room, d.record.present) := by
  rw [toTree_eq]
  exact fields_tree d.nodup_record

theorem written_toTree (h : ∀ v ∈ d.literals, v.toTree.Written) : d.toTree.Written := by
  rw [toTree_eq]
  refine written_tree ?_
  simp only [record, List.forall_mem_cons]
  exact ⟨written_some (Tree.written_ofString _), written_map Tree.written_ofString,
    written_some (Tree.written_array _ h), written_some (.bool _), written_some (.bool _),
    written_some (.bool _), nofun⟩

/-- **What is written as a literal is listed.** -/
theorem lists_text (h : ∀ v ∈ d.literals, v.toTree.Written) {v : Value} (hv : v ∈ d.literals) :
    Lists d.toTree.text v.toTree := by
  refine ⟨d.toTree, 126, d.record.present, d.literals.map Value.toTree, ?_,
    d.fields_toTree 126, find?_present d.nodup_record (by simp [record]),
    List.mem_map.mpr ⟨v, hv, rfl⟩⟩
  rw [Tree.text, String.toList_ofList, (written_toTree h).ofText?_compact]

/-- **A definition is read as it was written**, with the literals that are read
for its own. -/
theorem parse?_text {read : Value → Value} (h : ∀ v ∈ d.literals, v.toTree.Written)
    (hread : ∀ v ∈ d.literals, Value.decode 125 v.toTree = some (read v)) :
    parse? d.toTree.text = some { d with literals := d.literals.map read } := by
  have hnodup := d.nodup_record
  have hexpression : d.record.present.required 126 "expression" Json.Decode.string =
      some d.expression := by
    rw [required_present hnodup (t := Tree.ofString d.expression) (by simp [record]),
      Json.Decode.string_ofString]
  have hcolumn : d.record.present.withDefault 126 "column" none
      (Json.Decode.optional Json.Decode.string) = some d.column :=
    optional_present Tree.ofString hnodup (by simp [record]) (fun _ _ => nofun)
      fun _ _ => Json.Decode.string_ofString 126 _
  have hliterals : d.record.present.withDefault 126 "matches" []
      (Json.Decode.list Value.decode) = some (d.literals.map read) := by
    rw [withDefault_present hnodup (t := .array (d.literals.map Value.toTree)) (by simp [record]),
      Json.Decode.list_map hread]
  have hflag : ∀ {name : String} {b : Bool}, (name, some (.bool b)) ∈ d.record →
      d.record.present.withDefault 126 name false Json.Decode.bool = some b := fun hmem => by
    rw [withDefault_present hnodup hmem, Json.Decode.bool]
  have hblank := @hflag "selectBlank" d.selectsBlank (by simp [record])
  have herror := @hflag "selectError" d.selectsError (by simp [record])
  have hinverted := @hflag "invert" d.inverted (by simp [record])
  have hfields := d.fields_toTree 126
  rw [fieldNames] at hfields
  rw [parse?, Json.Decode.text?_text (written_toTree h)]
  change decode (126 + 1) d.toTree = _
  simp only [decode, hfields, hexpression, hcolumn, hliterals, hblank, herror, hinverted,
    Option.bind_eq_bind, Option.bind_some]
  rfl

/-- **An object as a literal selects itself**, unless it has the form of an
error. A filter that is built from a text and not inverted accepts each row on
which its expression results in an object that the text lists among the
literals. An object with a field `message`, written once, that is a string is
read as the error with that message, for which no row is accepted. -/
theorem object_literal_selects_itself {text : String} {fields : List (List Char × Tree)}
    (hlists : Lists text (.object fields)) (hread : parse? text = some d)
    (hbuild : d.build project compiler = .ok f) (hinverted : d.inverted = false) :
    ∃ members, Json.ofTree? (.object fields) = some (.object members) ∧
      (Value.errorMessage? fields = none → ∀ project index row,
        (∀ b, f.Sees project index row b →
          f.expression.evaluate b = .ok (.json (.object members))) →
        f.Accepts project index row) ∧
      ∀ message, Value.errorMessage? fields = some message →
        OrderedMap.lookup "message" members = some (.string message) ∧
          .error message ∈ f.literals ∧ ∀ project index row,
            ¬(f.withCriteria [.error message] false false).Accepts project index row := by
  obtain ⟨hliterals, hinverted', hbinder⟩ := of_build hbuild
  obtain ⟨literal, hliteral, hvalue⟩ := exists_literal_of_lists hlists hread
  obtain ⟨members, hmembers, rfl⟩ := Value.ofTree?_object hvalue
  refine ⟨members, hmembers, fun hnone project index row hresult => ?_, fun message hmessage => ?_⟩
  · obtain ⟨b, hsees⟩ := RowFilter.exists_sees hbinder project index row
    rw [hnone] at hliteral
    rw [RowFilter.accepts_of_value (hinverted'.trans hinverted) hsees (hresult b hsees),
      RowFilter.selectsResult_object, List.any_eq_true, hliterals]
    exact ⟨_, hliteral, Json.beq_self_of_tree hmembers⟩
  · rw [hmessage] at hliteral
    exact ⟨Value.lookup_message hmessage hmembers, hliterals ▸ hliteral,
      f.not_accepts_error_literal message⟩

end RowFilterDefinition

/-! ## Tickets with a note -/

namespace Tickets

open Json (Tree)

/-- A note with one field. -/
def note (name : String) (value : Json) : Json := .object [(name, value)]

/-- Tickets are asked for by their note. -/
def noting (literal : Value) : RowFilterDefinition :=
  ⟨"note", none, [literal], false, false, false⟩

/-- A language in which every expression results in the note. -/
def answering (j : Json) : Compiler := fun _ => .ok fun _ => .ok (.json j)

/-- The filter of tickets by their note, in that language. -/
def noted (j : Json) (literal : Value) : RowFilter :=
  ⟨⟨"note", fun _ => .ok (.json j)⟩, "", none, [literal], false, false, false, Binder.plain⟩

theorem build_noting (j : Json) (literal : Value) :
    (noting literal).build project (answering j) = .ok (noted j literal) := rfl

variable {name : String} {j : Json}

theorem written_note (h : j.toTree.Written) :
    ∀ v ∈ (noting (.json (note name j))).literals, v.toTree.Written := by
  intro v hv
  rw [List.mem_singleton.mp hv]
  refine .object (fun f hf => ?_) fun f hf => ?_
  · rw [List.mem_singleton.mp hf]
    exact ⟨name.toList, rfl⟩
  · rw [List.mem_singleton.mp hf]
    exact h

/-- A note is read as the document it is written for. -/
theorem ofTree?_note (h : Json.ofTree? j.toTree = some j) :
    Json.ofTree? (note name j).toTree = some (note name j) := by
  change (Json.ofFields? [] [(Text.quoteBody name.toList, j.toTree)]).map Json.object = _
  simp only [Json.ofFields?, Json.bodyText?_quoteBody, h]
  rfl

/-- The text for a note lists it. -/
theorem lists_noting (hwritten : j.toTree.Written) :
    RowFilterDefinition.Lists (noting (.json (note name j))).toTree.text (note name j).toTree :=
  RowFilterDefinition.lists_text (written_note hwritten) List.mem_cons_self

/-- The text for a note is read with the value of the note as its literal. -/
theorem parse?_noting {literal : Value} (hwritten : j.toTree.Written)
    (hroom : (note name j).toTree.depth ≤ 125)
    (hvalue : Value.ofTree? (note name j).toTree = some literal) :
    RowFilterDefinition.parse? (noting (.json (note name j))).toTree.text =
      some (noting literal) := by
  have hread : ∀ v ∈ (noting (.json (note name j))).literals,
      Value.decode 125 v.toTree = some (Function.const Value literal v) := by
    intro v hv
    rw [List.mem_singleton.mp hv, Value.decode]
    exact (if_pos hroom).trans hvalue
  exact RowFilterDefinition.parse?_text (written_note hwritten) hread

theorem errorMessage?_open : Value.errorMessage? [(Text.quoteBody "open".toList, .bool true)] =
    none := by
  rw [Value.errorMessage?, List.filter_cons, Json.bodyText?_quoteBody]
  rfl

theorem errorMessage?_message (s : String) : Value.errorMessage?
    [(Text.quoteBody "message".toList, .string (Text.quoteBody s.toList))] = some s := by
  rw [Value.errorMessage?, List.filter_cons, Json.bodyText?_quoteBody]
  exact Json.bodyText?_quoteBody s

/-- The note that a ticket is open is selected by itself. -/
theorem open_note_is_accepted :
    let opened := note "open" (.bool true)
    RowFilterDefinition.parse? (noting (.json opened)).toTree.text = some (noting (.json opened)) ∧
      (noted opened (.json opened)).Accepts project 0 Row.empty := by
  intro opened
  have hjson : Json.ofTree? opened.toTree = some opened := ofTree?_note rfl
  have hvalue : Value.ofTree? opened.toTree = some (.json opened) :=
    Value.ofTree?_document errorMessage?_open hjson
  have hwritten : (Json.bool true).toTree.Written := .bool true
  have hread : RowFilterDefinition.parse? (noting (.json opened)).toTree.text =
      some (noting (.json opened)) := parse?_noting hwritten (by decide) hvalue
  refine ⟨hread, ?_⟩
  obtain ⟨members, hmembers, hselects, -⟩ := RowFilterDefinition.object_literal_selects_itself
    (lists_noting hwritten) hread (build_noting opened _) rfl
  obtain rfl := Json.object.inj (Option.some.inj (hmembers.symm.trans hjson))
  exact hselects errorMessage?_open project 0 Row.empty fun _ _ => rfl

/-- A note that has the form of an error is listed, but not selected. -/
theorem message_note_is_not_accepted :
    let moved := note "message" (.string "moved")
    RowFilterDefinition.Lists (noting (.json moved)).toTree.text moved.toTree ∧
      Json.ofTree? moved.toTree = some moved ∧
      RowFilterDefinition.parse? (noting (.json moved)).toTree.text =
        some (noting (.error "moved")) ∧
      (noting (.error "moved")).build project (answering moved) =
        .ok (noted moved (.error "moved")) ∧
      (noting (.error "moved")).inverted = false ∧
      (∀ b, (noted moved (.error "moved")).expression.evaluate b = .ok (.json moved)) ∧
      ¬(noted moved (.error "moved")).Accepts project 0 Row.empty := by
  intro moved
  have hjson : Json.ofTree? moved.toTree = some moved :=
    ofTree?_note (congrArg (Option.map Json.string) (Json.bodyText?_quoteBody "moved"))
  have hvalue : Value.ofTree? moved.toTree = some (.error "moved") :=
    Value.ofTree?_error (errorMessage?_message "moved") hjson
  have hwritten : (Json.string "moved").toTree.Written := .string _
  exact ⟨lists_noting hwritten, hjson, parse?_noting hwritten (by decide) hvalue,
    build_noting moved _, rfl, fun _ => rfl,
    RowFilter.not_accepts_error_literal (noted moved (.error "moved")) "moved" project 0 Row.empty⟩

end Tickets

end DataQuality
