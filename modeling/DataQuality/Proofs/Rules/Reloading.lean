import DataQuality.Proofs.Json.Record
import DataQuality.Rules.Validation
/-!
# Reloading — a rule document is read back from its text

Every definition of a document is written as a record, and each of its
decoders is inverse to its writer: what is absent is not written and comes
back absent, and what is written comes back as it is, however empty. Writing
and reading agree on names of fields, on words and on escapes, so the text of
a document is decoded to the document (`Rules.decode_text`), and it is loaded
just when it is valid (`Rules.loaded_iff_valid`).
-/

namespace DataQuality

open Json (Tree)
open Json.Record (fields_tree required_present withDefault_present optional_present written_tree
  written_some written_map)

variable {room : Nat} {r : Json.Record} {name : String}

/-! ## Fields that several definitions have -/

/-- **A combination is told by its word.** -/
theorem Combination.decode_toTree (room : Nat) (c : Combination) :
    Combination.decode room c.toTree = some c := by
  rw [decode, toTree, Tree.ofString, Json.Decode.word.eq_1, Json.bodyText?_quoteBody]
  cases c <;> rfl

/-- A text that is absent or written. -/
theorem optionalText_present {o : Option String} (hnodup : (r.map Prod.fst).Nodup)
    (h : (name, o.map Tree.ofString) ∈ r) : optionalText r.present room name = some o :=
  optional_present Tree.ofString hnodup h (fun _ _ => nofun) fun s _ =>
    Json.Decode.string_ofString room s

theorem combinationField_present {c : Combination} (hnodup : (r.map Prod.fst).Nodup)
    (h : ("concat", some c.toTree) ∈ r) : combinationField r.present room = some c := by
  rw [combinationField, withDefault_present hnodup h, Combination.decode_toTree]

theorem written_textsTree (texts : List String) : (textsTree texts).Written :=
  Tree.written_array texts fun s _ => Tree.written_ofString s

/-- **Texts are decoded in order.** -/
theorem list_textsTree (room : Nat) (texts : List String) :
    Json.Decode.list Json.Decode.string (room + 1) (textsTree texts) = some texts :=
  Json.Decode.list_array fun s _ => Json.Decode.string_ofString room s

/-! ## Checks -/

namespace CheckDefinition

/-- The fields of a check. -/
def record (d : CheckDefinition) : Json.Record :=
  [("expression", some (Tree.ofString d.expression)), ("column", d.column.map Tree.ofString),
    ("disabled", some (.bool d.disabled)), ("comment", d.comment.map Tree.ofString)]

theorem toTree_eq (d : CheckDefinition) : d.toTree = d.record.tree := by
  obtain ⟨expression, column, disabled, comment⟩ := d
  cases column <;> cases comment <;> rfl

theorem nodup_record (d : CheckDefinition) : (d.record.map Prod.fst).Nodup := by
  change ["expression", "column", "disabled", "comment"].Nodup
  decide

theorem written_toTree (d : CheckDefinition) : d.toTree.Written := by
  rw [toTree_eq]
  refine written_tree ?_
  simp only [record, List.forall_mem_cons]
  exact ⟨written_some (Tree.written_ofString _), written_map Tree.written_ofString,
    written_some (.bool _), written_map Tree.written_ofString, nofun⟩

/-- **A check is decoded as it was written.** -/
theorem decode_toTree (room : Nat) (d : CheckDefinition) : decode (room + 1) d.toTree = some d := by
  have hnodup := d.nodup_record
  have hfields : Json.Decode.fields ["expression", "column", "disabled", "comment"] (room + 1)
      d.record.tree = some (room, d.record.present) := fields_tree hnodup
  have hexpression : d.record.present.required room "expression" Json.Decode.string =
      some d.expression := by
    rw [required_present hnodup (t := Tree.ofString d.expression) (by simp [record]),
      Json.Decode.string_ofString]
  have hcolumn : optionalText d.record.present room "column" = some d.column :=
    optionalText_present hnodup (by simp [record])
  have hdisabled : d.record.present.withDefault room "disabled" false Json.Decode.bool =
      some d.disabled := by
    rw [withDefault_present hnodup (t := .bool d.disabled) (by simp [record]), Json.Decode.bool]
  have hcomment : optionalText d.record.present room "comment" = some d.comment :=
    optionalText_present hnodup (by simp [record])
  rw [optionalText] at hcolumn hcomment
  simp only [toTree_eq, decode, hfields, hexpression, hcolumn, hdisabled, hcomment,
    Option.bind_eq_bind, Option.bind_some]
  rfl

end CheckDefinition

/-- The tree of checks. -/
abbrev checksTree (checks : List CheckDefinition) : Tree :=
  .array (checks.map CheckDefinition.toTree)

theorem written_checksTree (checks : List CheckDefinition) : (checksTree checks).Written :=
  Tree.written_array checks fun d _ => d.written_toTree

theorem checksField_present {checks : List CheckDefinition} (hnodup : (r.map Prod.fst).Nodup)
    (h : ("evalTuples", some (checksTree checks)) ∈ r) :
    checksField r.present (room + 2) = some checks := by
  rw [checksField, withDefault_present hnodup h]
  exact Json.Decode.list_array fun d _ => d.decode_toTree room

/-! ## Column metrics -/

namespace MetricDefinition

/-- The fields of a column metric. -/
def record (d : MetricDefinition) : Json.Record :=
  [("name", some (Tree.ofString d.name)), ("column", d.column.map Tree.ofString),
    ("description", d.description.map Tree.ofString), ("concat", some d.combination.toTree),
    ("evalTuples", some (checksTree d.checks))]

theorem toTree_eq (d : MetricDefinition) : d.toTree = d.record.tree := by
  obtain ⟨name, column, description, combination, checks⟩ := d
  cases column <;> cases description <;> rfl

theorem nodup_record (d : MetricDefinition) : (d.record.map Prod.fst).Nodup := by
  change ["name", "column", "description", "concat", "evalTuples"].Nodup
  decide

theorem written_toTree (d : MetricDefinition) : d.toTree.Written := by
  rw [toTree_eq]
  refine written_tree ?_
  simp only [record, List.forall_mem_cons]
  exact ⟨written_some (Tree.written_ofString _), written_map Tree.written_ofString,
    written_map Tree.written_ofString, written_some (Tree.written_ofString _),
    written_some (written_checksTree _), nofun⟩

/-- **A column metric is decoded as it was written**; no column is not the
empty column. -/
theorem decode_toTree (room : Nat) (d : MetricDefinition) :
    decode (room + 3) d.toTree = some d := by
  have hnodup := d.nodup_record
  have hfields : Json.Decode.fields ["name", "column", "description", "concat", "evalTuples"]
      (room + 3) d.record.tree = some (room + 2, d.record.present) := fields_tree hnodup
  have hname : d.record.present.required (room + 2) "name" Json.Decode.string = some d.name := by
    rw [required_present hnodup (t := Tree.ofString d.name) (by simp [record]),
      Json.Decode.string_ofString]
  have hcolumn : optionalText d.record.present (room + 2) "column" = some d.column :=
    optionalText_present hnodup (by simp [record])
  have hdescription : optionalText d.record.present (room + 2) "description" =
      some d.description := optionalText_present hnodup (by simp [record])
  have hcombination : combinationField d.record.present (room + 2) = some d.combination :=
    combinationField_present hnodup (by simp [record])
  have hchecks : checksField d.record.present (room + 2) = some d.checks :=
    checksField_present hnodup (by simp [record])
  simp only [toTree_eq, decode, hfields, hname, hcolumn, hdescription, hcombination, hchecks,
    Option.bind_eq_bind, Option.bind_some]
  rfl

end MetricDefinition

/-! ## Spanning metrics -/

namespace FunctionDefinition

/-- The fields of a function. -/
def record (d : FunctionDefinition) : Json.Record :=
  [("name", some (Tree.ofString d.name)), ("params", d.params.map textsTree)]

theorem toTree_eq (d : FunctionDefinition) : d.toTree = d.record.tree := by
  obtain ⟨name, params⟩ := d
  cases params <;> rfl

theorem nodup_record (d : FunctionDefinition) : (d.record.map Prod.fst).Nodup := by
  change ["name", "params"].Nodup
  decide

theorem written_toTree (d : FunctionDefinition) : d.toTree.Written := by
  rw [toTree_eq]
  refine written_tree ?_
  simp only [record, List.forall_mem_cons]
  exact ⟨written_some (Tree.written_ofString _), written_map written_textsTree, nofun⟩

/-- **A function is decoded as it was written**; no parameters are not the
empty list of parameters. -/
theorem decode_toTree (room : Nat) (d : FunctionDefinition) :
    decode (room + 2) d.toTree = some d := by
  have hnodup := d.nodup_record
  have hfields : Json.Decode.fields ["name", "params"] (room + 2) d.record.tree =
      some (room + 1, d.record.present) := fields_tree hnodup
  have hname : d.record.present.required (room + 1) "name" Json.Decode.string = some d.name := by
    rw [required_present hnodup (t := Tree.ofString d.name) (by simp [record]),
      Json.Decode.string_ofString]
  have hparams : d.record.present.withDefault (room + 1) "params" none
      (Json.Decode.optional (Json.Decode.list Json.Decode.string)) = some d.params :=
    optional_present textsTree hnodup (by simp [record]) (fun _ _ => nofun)
      fun texts _ => list_textsTree room texts
  simp only [toTree_eq, decode, hfields, hname, hparams, Option.bind_eq_bind, Option.bind_some]
  rfl

end FunctionDefinition

namespace SpanningDefinition

/-- The fields of a spanning metric. -/
def record (d : SpanningDefinition) : Json.Record :=
  [("name", some (Tree.ofString d.name)), ("columns", some (textsTree d.columns)),
    ("description", d.description.map Tree.ofString),
    ("function", d.function.map FunctionDefinition.toTree), ("concat", some d.combination.toTree),
    ("evalTuples", some (checksTree d.checks))]

theorem toTree_eq (d : SpanningDefinition) : d.toTree = d.record.tree := by
  obtain ⟨name, columns, description, function, combination, checks⟩ := d
  cases description <;> cases function <;> rfl

theorem nodup_record (d : SpanningDefinition) : (d.record.map Prod.fst).Nodup := by
  change ["name", "columns", "description", "function", "concat", "evalTuples"].Nodup
  decide

theorem written_toTree (d : SpanningDefinition) : d.toTree.Written := by
  rw [toTree_eq]
  refine written_tree ?_
  simp only [record, List.forall_mem_cons]
  exact ⟨written_some (Tree.written_ofString _), written_some (written_textsTree _),
    written_map Tree.written_ofString, written_map FunctionDefinition.written_toTree,
    written_some (Tree.written_ofString _), written_some (written_checksTree _), nofun⟩

/-- **A spanning metric is decoded as it was written.** -/
theorem decode_toTree (room : Nat) (d : SpanningDefinition) :
    decode (room + 3) d.toTree = some d := by
  have hnodup := d.nodup_record
  have hfields : Json.Decode.fields
      ["name", "columns", "description", "function", "concat", "evalTuples"] (room + 3)
      d.record.tree = some (room + 2, d.record.present) := fields_tree hnodup
  have hname : d.record.present.required (room + 2) "name" Json.Decode.string = some d.name := by
    rw [required_present hnodup (t := Tree.ofString d.name) (by simp [record]),
      Json.Decode.string_ofString]
  have hcolumns : d.record.present.required (room + 2) "columns"
      (Json.Decode.list Json.Decode.string) = some d.columns := by
    rw [required_present hnodup (t := textsTree d.columns) (by simp [record]), list_textsTree]
  have hdescription : optionalText d.record.present (room + 2) "description" =
      some d.description := optionalText_present hnodup (by simp [record])
  have hfunction : d.record.present.withDefault (room + 2) "function" none
      (Json.Decode.optional FunctionDefinition.decode) = some d.function :=
    optional_present FunctionDefinition.toTree hnodup (by simp [record])
      (fun _ _ => nofun) fun f _ => f.decode_toTree room
  have hcombination : combinationField d.record.present (room + 2) = some d.combination :=
    combinationField_present hnodup (by simp [record])
  have hchecks : checksField d.record.present (room + 2) = some d.checks :=
    checksField_present hnodup (by simp [record])
  simp only [toTree_eq, decode, hfields, hname, hcolumns, hdescription, hfunction, hcombination,
    hchecks, Option.bind_eq_bind, Option.bind_some]
  rfl

end SpanningDefinition

/-! ## Documents -/

namespace Rules

/-- The fields of a document. -/
def record (r : Rules) : Json.Record :=
  [("metrics", some (.array (r.metrics.map MetricDefinition.toTree))),
    ("uniqueness", r.uniqueness.map SpanningDefinition.toTree),
    ("spanningMetrics", some (.array (r.spanning.map SpanningDefinition.toTree)))]

theorem toTree_eq (r : Rules) : r.toTree = r.record.tree := by
  obtain ⟨metrics, uniqueness, spanning⟩ := r
  cases uniqueness <;> rfl

theorem nodup_record (r : Rules) : (r.record.map Prod.fst).Nodup := by
  change ["metrics", "uniqueness", "spanningMetrics"].Nodup
  decide

theorem written_toTree (r : Rules) : r.toTree.Written := by
  rw [toTree_eq]
  refine written_tree ?_
  simp only [record, List.forall_mem_cons]
  exact ⟨written_some (Tree.written_array _ fun d _ => d.written_toTree),
    written_map SpanningDefinition.written_toTree,
    written_some (Tree.written_array _ fun d _ => d.written_toTree), nofun⟩

/-- **A document is decoded as it was written.** -/
theorem decode_toTree (room : Nat) (r : Rules) : decode (room + 5) r.toTree = some r := by
  have hnodup := r.nodup_record
  have hfields : Json.Decode.fields ["metrics", "uniqueness", "spanningMetrics"] (room + 5)
      r.record.tree = some (room + 4, r.record.present) := fields_tree hnodup
  have hmetrics : r.record.present.withDefault (room + 4) "metrics" []
      (Json.Decode.list MetricDefinition.decode) = some r.metrics := by
    rw [withDefault_present hnodup (t := .array (r.metrics.map MetricDefinition.toTree))
      (by simp [record])]
    exact Json.Decode.list_array fun d _ => d.decode_toTree room
  have huniqueness : r.record.present.withDefault (room + 4) "uniqueness" none
      (Json.Decode.optional SpanningDefinition.decode) = some r.uniqueness :=
    optional_present SpanningDefinition.toTree hnodup (by simp [record])
      (fun _ _ => nofun) fun d _ => d.decode_toTree (room + 1)
  have hspanning : r.record.present.withDefault (room + 4) "spanningMetrics" []
      (Json.Decode.list SpanningDefinition.decode) = some r.spanning := by
    rw [withDefault_present hnodup (t := .array (r.spanning.map SpanningDefinition.toTree))
      (by simp [record])]
    exact Json.Decode.list_array fun d _ => d.decode_toTree room
  simp only [toTree_eq, decode, hfields, hmetrics, huniqueness, hspanning, Option.bind_eq_bind,
    Option.bind_some]
  rfl

/-- **The text of a document is decoded to the document**, valid or not. -/
theorem decode_text (r : Rules) : Json.Decode.text? decode r.toTree.text = some r := by
  rw [Json.Decode.text?_text r.written_toTree]
  exact r.decode_toTree 122

/-- **A document is loaded from its text just when it is valid**, and then it
is loaded as it was: every name, text, flag and list, and what is absent as
absent. Nothing else is ever loaded from the text of a document. -/
theorem loaded_iff_valid (r : Rules) :
    (ofText r.toTree.text = .ok r ↔ r.validate = .ok ()) ∧
      ∀ r', ofText r.toTree.text = .ok r' → r' = r := by
  cases hvalid : r.validate with
  | error fault =>
    have hload : ofText r.toTree.text = .error fault := by
      rw [ofText, decode_text]
      simp only [hvalid]
    rw [hload]
    exact ⟨⟨nofun, nofun⟩, nofun⟩
  | ok _ =>
    have hload : ofText r.toTree.text = .ok r := by
      rw [ofText, decode_text]
      simp only [hvalid]
    rw [hload]
    exact ⟨⟨fun _ => rfl, fun _ => rfl⟩, fun r' h => (Except.ok.inj h).symm⟩

end Rules

end DataQuality
