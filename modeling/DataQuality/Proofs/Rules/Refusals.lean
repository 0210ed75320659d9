import DataQuality.Proofs.Json.Record
import DataQuality.Proofs.Rules.Validity
import DataQuality.Rules.Compile
import Mathlib.Data.List.Duplicate
/-!
# Refusals — what is told of a document that cannot be used

A document that is not valid is refused with one problem, and it has that problem
(`Rules.Has`). The refusal comes first: neither the compiler nor the registry can
change it, and loading and compiling refuse the document alike
(`validation_decides`). A file is refused where its text is, but the path that is
put in front makes an internal fault of each refusal (`file_hides_kind`).
-/

namespace DataQuality

namespace Rules

open Json (Tree)
open Text (AllBlank)

variable {r : Rules} {p : Problem}

/-! ## Problems -/

/-- What is the matter with a document where a problem is told of it. -/
inductive Has (r : Rules) : Problem → Prop
  | blankName {name : String} : name ∈ r.names → AllBlank name.toList → Has r .blankName
  | duplicateMetric {name : String} {column : Option String} :
      List.Duplicate (name, column) (r.metrics.map fun d => (d.name, d.column)) →
      Has r (.duplicateMetric name column)
  | reservedName {d : SpanningDefinition} : d ∈ r.spanning → d.name = Overlay.uniquenessName →
      Has r .reservedName
  | duplicateSpanning {name : String} : List.Duplicate name (r.spanning.map (·.name)) →
      Has r (.duplicateSpanning name)
  | noColumns {d : SpanningDefinition} : d ∈ r.spanning → d.columns = [] →
      Has r (.noColumns d.name)

/-- A valid document has no problem. -/
theorem Has.not_valid (h : r.Has p) : ¬r.Valid := by
  intro hvalid
  cases h with
  | blankName hmem hblank => exact hvalid.named _ hmem hblank
  | duplicateMetric hduplicate => exact hduplicate.not_nodup hvalid.distinct
  | reservedName hmem hname => exact hvalid.free _ hmem hname
  | duplicateSpanning hduplicate => exact hduplicate.not_nodup hvalid.distinctSpanning
  | noColumns hmem hcolumns => exact hvalid.spans _ hmem hcolumns

/-- A scan that has passed one item more finds what was seen before or comes
twice: an item that was only passed comes twice from there on. -/
theorem repeated_cons {α : Type} {x y : α} {seen items : List α}
    (h : x ∈ y :: seen ∧ x ∈ items ∨ List.Duplicate x items) :
    x ∈ seen ∧ x ∈ y :: items ∨ List.Duplicate x (y :: items) := by
  rcases h with ⟨hmem, hitems⟩ | hitems
  · rcases List.mem_cons.mp hmem with rfl | hmem
    · exact .inr (List.Mem.duplicate_cons_self hitems)
    · exact .inl ⟨hmem, List.mem_cons_of_mem _ hitems⟩
  · exact .inr (hitems.duplicate_cons _)

/-- The scan of column metrics tells one that was seen before, or one that comes
twice. -/
theorem duplicate_of_metricsProblem? {seen : List (String × Option String)}
    {ds : List MetricDefinition} (h : metricsProblem? seen ds = some p) :
    ∃ name column, p = .duplicateMetric name column ∧
      ((name, column) ∈ seen ∧ (name, column) ∈ ds.map (fun d => (d.name, d.column)) ∨
        List.Duplicate (name, column) (ds.map fun d => (d.name, d.column))) := by
  induction ds generalizing seen with
  | nil => cases h
  | cons d rest ih =>
    rw [metricsProblem?] at h
    split at h
    · rename_i hseen
      obtain rfl := Option.some.inj h
      exact ⟨d.name, d.column, rfl, .inl ⟨List.contains_iff_mem.mp hseen, List.mem_cons_self⟩⟩
    · obtain ⟨name, column, rfl, hrest⟩ := ih h
      exact ⟨name, column, rfl, repeated_cons hrest⟩

/-- The scan of spanning metrics tells one with the reserved name, one whose name
was seen before or comes twice, or one without columns. -/
theorem cause_of_spanningProblem? {seen : List String} {ds : List SpanningDefinition}
    (h : spanningProblem? seen ds = some p) :
    (p = .reservedName ∧ ∃ d ∈ ds, d.name = Overlay.uniquenessName) ∨
      (∃ name, p = .duplicateSpanning name ∧
        (name ∈ seen ∧ name ∈ ds.map (·.name) ∨ List.Duplicate name (ds.map (·.name)))) ∨
      ∃ d ∈ ds, p = .noColumns d.name ∧ d.columns = [] := by
  induction ds generalizing seen with
  | nil => cases h
  | cons d rest ih =>
    rw [spanningProblem?] at h
    split at h
    · rename_i hname
      exact .inl ⟨(Option.some.inj h).symm, d, List.mem_cons_self, hname⟩
    split at h
    · rename_i hseen
      exact .inr (.inl ⟨d.name, (Option.some.inj h).symm,
        .inl ⟨List.contains_iff_mem.mp hseen, List.mem_cons_self⟩⟩)
    split at h
    · rename_i hcolumns
      exact .inr (.inr ⟨d, List.mem_cons_self, (Option.some.inj h).symm,
        List.isEmpty_iff.mp hcolumns⟩)
    rcases ih h with ⟨rfl, e, he, hname⟩ | ⟨name, rfl, hrest⟩ | ⟨e, he, hcause⟩
    · exact .inl ⟨rfl, e, List.mem_cons_of_mem _ he, hname⟩
    · exact .inr (.inl ⟨name, rfl, repeated_cons hrest⟩)
    · exact .inr (.inr ⟨e, List.mem_cons_of_mem _ he, hcause⟩)

/-- **The problem that is told of a document is one that it has.** -/
theorem has_of_problem? (h : r.problem? = some p) : r.Has p := by
  rw [problem?] at h
  split at h
  · rename_i hblank
    obtain rfl := Option.some.inj h
    obtain ⟨name, hmem, hname⟩ := List.any_eq_true.mp hblank
    exact .blankName hmem (isBlankName_iff.mp hname)
  split at h
  · rename_i p' hmetrics
    obtain rfl := Option.some.inj h
    obtain ⟨name, column, rfl, ⟨hmem, -⟩ | hduplicate⟩ := duplicate_of_metricsProblem? hmetrics
    · exact absurd hmem List.not_mem_nil
    · exact .duplicateMetric hduplicate
  · rcases cause_of_spanningProblem? h with
      ⟨rfl, d, hd, hname⟩ | ⟨name, rfl, ⟨hmem, -⟩ | hduplicate⟩ | ⟨d, hd, rfl, hcolumns⟩
    · exact .reservedName hd hname
    · exact absurd hmem List.not_mem_nil
    · exact .duplicateSpanning hduplicate
    · exact .noColumns hd hcolumns

/-- **A document is valid just when it has none of the problems.** -/
theorem valid_iff_forall_not_has : r.Valid ↔ ∀ p, ¬r.Has p := by
  constructor
  · exact fun hvalid p hproblem => hproblem.not_valid hvalid
  · intro hnone
    rw [← problem?_eq_none_iff]
    exact Option.eq_none_iff_forall_ne_some.mpr fun p hproblem =>
      hnone p (has_of_problem? hproblem)

/-! ## Refusals -/

/-- A document is loaded from its text as far as it is accepted. -/
theorem ofText_of_decode {s : String} (h : Json.Decode.text? decode s = some r) :
    ofText s = r.validate.map fun _ => r := by
  rw [ofText, h]
  simp only
  cases r.validate with
  | ok _ => rfl
  | error fault => rfl

/-- **A document is accepted or refused as a whole.** It is accepted just when it
is valid: every name says something, no two column metrics agree in name and
column, and spanning metrics have columns and names of their own, none of them
the reserved one. Otherwise it is refused for a problem that it has, when it is
loaded from a text as when it is compiled, whatever compiler and functions there
are. -/
theorem validation_decides (r : Rules) :
    (r.validate = .ok () ↔ r.Valid) ∧
      (¬r.Valid → ∃ p, r.Has p ∧ r.validate = .error (.configuration p.message) ∧
        (∀ s, Json.Decode.text? decode s = some r →
          ofText s = .error (.configuration p.message)) ∧
        ∀ compiler registry, r.compile compiler registry = .error (.configuration p.message)) := by
  refine ⟨validate_eq_ok_iff, fun hinvalid => ?_⟩
  cases hproblem : r.problem? with
  | none => exact absurd (problem?_eq_none_iff.mp hproblem) hinvalid
  | some p =>
    have hrefused : r.validate = .error (.configuration p.message) := by
      rw [validate, hproblem]
      rfl
    refine ⟨p, has_of_problem? hproblem, hrefused, fun s hs => ?_, fun compiler registry => ?_⟩
    · rw [ofText_of_decode hs, hrefused]
      rfl
    · rw [compile, hrefused]

/-- Of two metrics with one name and column the later is told. -/
example : problem? ⟨[⟨"m", none, none, .all, []⟩, ⟨"n", none, none, .any, []⟩,
    ⟨"m", none, some "again", .any, []⟩], none, []⟩ = some (.duplicateMetric "m" none) := by decide

/-! ## Files -/

variable {s : String} {fault : Fault}

/-- **A text is refused as no document or for a problem of the document.** -/
theorem ofText_eq_error (h : ofText s = .error fault) :
    (Json.Decode.text? decode s = none ∧ ∃ reason, fault = .document reason) ∨
      ∃ r p, Json.Decode.text? decode s = some r ∧ r.Has p ∧ fault = .configuration p.message := by
  cases hread : Json.Decode.text? decode s with
  | none =>
    rw [ofText, hread] at h
    exact .inl ⟨rfl, _, (Except.error.inj h).symm⟩
  | some r =>
    rw [ofText_of_decode hread, validate] at h
    cases hproblem : r.problem? with
    | none =>
      rw [hproblem] at h
      cases h
    | some p =>
      rw [hproblem] at h
      exact .inr ⟨r, p, rfl, has_of_problem? hproblem, (Except.error.inj h).symm⟩

/-- A file that holds a text is loaded as the text is, with its path in front of
what is wrong. -/
theorem ofFile_of_text (path s : String) : (ofFile path (some s.toUTF8)).2 =
    (ofText s).mapError (Fault.within ("loading rules from " ++ path)) := by
  have hbytes : String.fromUTF8? s.toUTF8 = some s := dif_pos s.isValidUTF8
  rw [ofFile]
  simp only [hbytes]
  cases ofText s with
  | ok r => rfl
  | error fault => rfl

/-- **A file is loaded just when its text is, and what is wrong with the text is
told as an internal fault.** The rules are those of the text. A text is refused
as no document or for its configuration; of a file the wording is kept, behind
the path, but not the kind. -/
theorem file_hides_kind (path s : String) :
    (∀ r, (ofFile path (some s.toUTF8)).2 = .ok r ↔ ofText s = .ok r) ∧
      ∀ fault, ofText s = .error fault →
        ((Json.Decode.text? decode s = none ∧ ∃ reason, fault = .document reason) ∨
          ∃ r p, Json.Decode.text? decode s = some r ∧ r.Has p ∧
            fault = .configuration p.message) ∧
        (ofFile path (some s.toUTF8)).2 =
          .error (.internal ("loading rules from " ++ path ++ ": " ++ fault.message)) := by
  rw [ofFile_of_text]
  constructor
  · intro r
    cases ofText s with
    | ok r' => exact Iff.rfl
    | error fault => exact ⟨nofun, nofun⟩
  · intro fault hrefused
    have hcause := ofText_eq_error hrefused
    refine ⟨hcause, ?_⟩
    rw [hrefused, Except.mapError]
    obtain ⟨-, reason, rfl⟩ | ⟨r, p, -, -, rfl⟩ := hcause
    · rfl
    · rfl

/-- A document whose only metric has a blank for its name. -/
def unnamed : Tree := .object (Tree.field "metrics"
  (.array [.object (Tree.field "name" (Tree.ofString " "))]))

/-- The text of the document is refused for its configuration, and the file of
the text as internal. -/
theorem unnamed_file_is_internal :
    let s := "\x7b\"metrics\":[\x7b\"name\":\" \"\x7d]\x7d"
    ofText s = .error (.configuration "Metric name cannot be empty") ∧
      (ofFile "rules.json" (some s.toUTF8)).2 = .error (.internal
        "loading rules from rules.json: Configuration error: Metric name cannot be empty") := by
  intro s
  have htext : unnamed.text = s := by decide
  have hmetric : (Tree.object (Tree.field "name" (Tree.ofString " "))).Written :=
    .object (List.forall_mem_singleton.mpr ⟨"name".toList, rfl⟩)
      (List.forall_mem_singleton.mpr (Tree.written_ofString " "))
  have hwritten : unnamed.Written :=
    .object (List.forall_mem_singleton.mpr ⟨"metrics".toList, rfl⟩)
      (List.forall_mem_singleton.mpr (.array (List.forall_mem_singleton.mpr hmetric)))
  have hread : Json.Decode.text? decode s = some ⟨[⟨" ", none, none, .all, []⟩], none, []⟩ := by
    rw [← htext, Json.Decode.text?_text hwritten]
    rfl
  have hrefused : ofText s = .error (.configuration "Metric name cannot be empty") := by
    rw [ofText_of_decode hread]
    rfl
  refine ⟨hrefused, ?_⟩
  rw [ofFile_of_text, hrefused]
  rfl

end Rules

end DataQuality
