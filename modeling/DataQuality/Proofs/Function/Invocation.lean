import DataQuality.Proofs.Function.Call
import DataQuality.Rules.Compile
/-!
# Invocations — the text of a call is read back

A function writes the text of its own call, with every argument in quotes.
Quoting and the grammar of arguments agree: quoted texts are literals, and a
list of them is an argument list that gives the texts back. So a call whose
arguments hold no line feed is compiled to a call of that very function with
those very texts. A line feed survives quoting, but no call text has a shape
whose body goes over a line: such a call cannot be compiled.
-/

namespace DataQuality

namespace Argument

open Text (AllBlank)

variable {s : List Char} {texts : List String} {vs : List Value}

/-! ## Quoted texts in the grammar -/

/-- **What is escaped stands for the text it was made of.** -/
theorem quoted_escape (s : List Char) : Quoted (escape s) s := by
  induction s with
  | nil => exact .nil
  | cons c s ih =>
    rw [escape]
    split
    · exact .escaped ih
    · rename_i hplain
      obtain ⟨hquote, hslash⟩ := not_or.mp hplain
      exact .plain hquote hslash ih

theorem literal_quote (t : String) : Literal (quote t) (.string t) := by
  have hliteral := Literal.text (quoted_escape t.toList)
  rwa [String.ofList_toList] at hliteral

theorem padded_quote (t : String) : Padded (quote t) (.string t) :=
  ⟨[], quote t, [], (List.append_nil _).symm, Text.allBlank_nil, literal_quote t,
    Text.allBlank_nil⟩

/-- Blanks in front of a literal are its own. -/
theorem Padded.append {b : List Char} {v : Value} (hb : AllBlank b) (h : Padded s v) :
    Padded (b ++ s) v := by
  obtain ⟨front, literal, back, rfl, hfront, hliteral, hback⟩ := h
  refine ⟨b ++ front, literal, back, by simp, ?_, hliteral, hback⟩
  intro c hc
  exact (List.mem_append.mp hc).elim (hb c) (hfront c)

theorem Listed.append {b : List Char} (hb : AllBlank b) (h : Listed s vs) :
    Listed (b ++ s) vs := by
  cases h with
  | last hpadded => exact .last (hpadded.append hb)
  | more hpadded hrest =>
    rw [← List.append_assoc]
    exact .more (hpadded.append hb) hrest

theorem listed_quoteAll (t : String) (rest : List String) :
    Listed (quoteAll (t :: rest)) ((t :: rest).map .string) := by
  induction rest generalizing t with
  | nil => exact .last (padded_quote t)
  | cons u rest ih =>
    have hblank : AllBlank [' '] := by decide
    exact .more (padded_quote t) ((ih u).append hblank)

/-- **A list of quoted texts is an argument list of those texts**, in order:
no text ends early and none runs into its neighbour. -/
theorem body_quoteAll (texts : List String) : Body (quoteAll texts) (texts.map .string) := by
  cases texts with
  | nil => exact .blank Text.allBlank_nil
  | cons t rest => exact .listed (listed_quoteAll t rest)

/-! ## Line feeds -/

theorem newline_mem_escape : '\n' ∈ escape s ↔ '\n' ∈ s := by
  induction s with
  | nil => rfl
  | cons c s ih =>
    rw [escape]
    split <;> simp [ih]

theorem newline_mem_quote {t : String} : '\n' ∈ quote t ↔ '\n' ∈ t.toList := by
  simp [quote, newline_mem_escape]

/-- Quoting neither adds a line feed nor takes one away. -/
theorem newline_mem_quoteAll : '\n' ∈ quoteAll texts ↔ ∃ t ∈ texts, '\n' ∈ t.toList := by
  induction texts with
  | nil => simp [quoteAll]
  | cons t rest ih =>
    cases rest with
    | nil => simp [quoteAll, newline_mem_quote]
    | cons u rest =>
      rw [quoteAll, List.mem_append, newline_mem_quote]
      simpa using or_congr_right ih

end Argument

namespace SpanningFunction

variable {f : SpanningFunction} {registry : Registry} {columns : List String}
variable {params : Option (List String)}

/-! ## The call of a function -/

/-- The arguments of a call on columns: the columns, then the parameters. -/
def argumentTexts (f : SpanningFunction) (columns : List String) (params : Option (List String)) :
    List String :=
  columns ++ params.getD f.defaultParams

theorem framed_invocation (hname : Call.IsName f.name.toList) :
    Call.Framed (f.invocation columns params).toList f.name.toList
      (Argument.quoteAll (f.argumentTexts columns params)) := by
  refine ⟨[], [], [], ?_, Text.allBlank_nil, hname, Text.allBlank_nil, Text.allBlank_nil⟩
  rw [invocation, String.toList_ofList, argumentTexts, effectiveParams]
  simp

/-- **A call on one line is compiled to a call of the function itself**, with
the columns and the parameters as they are. -/
theorem compileCall_of_one_line (hregistered : registry.get? f.name = some f)
    (hname : Call.IsName f.name.toList)
    (hline : ∀ t ∈ f.argumentTexts columns params, '\n' ∉ t.toList) :
    f.compileCall columns params registry.compiler =
      .ok ⟨f.name, params.getD f.defaultParams, f.invocation columns params,
        fun b => f.call b ((f.argumentTexts columns params).map .string)⟩ := by
  have hbody : '\n' ∉ Argument.quoteAll (f.argumentTexts columns params) := by
    rw [Argument.newline_mem_quoteAll]
    rintro ⟨t, ht, hnewline⟩
    exact hline t ht hnewline
  have hregistered : registry.get? (String.ofList f.name.toList) = some f := by
    rwa [String.ofList_toList]
  have hcall : Call.parse registry (f.invocation columns params) =
      .ok ⟨f, (f.argumentTexts columns params).map .string⟩ :=
    Call.parse_eq_ok_iff.mpr ⟨_, _, ⟨framed_invocation hname, hbody⟩, hregistered,
      Argument.body_quoteAll _⟩
  rw [compileCall, Expression.compile, Call.compiler_eq, hcall]
  rfl

/-- A call that goes over a line has no shape. -/
theorem compileCall_of_newline (hname : Call.IsName f.name.toList)
    (hnewline : ∃ t ∈ f.argumentTexts columns params, '\n' ∈ t.toList) :
    f.compileCall columns params registry.compiler =
      .error (.expression (f.invocation columns params) "expected a single function call") := by
  have hbody : '\n' ∈ Argument.quoteAll (f.argumentTexts columns params) :=
    Argument.newline_mem_quoteAll.mpr hnewline
  have hnone : Call.shape? (f.invocation columns params).toList = none := by
    rw [Call.shape?_of_framed (framed_invocation hname), if_pos (by simpa using hbody)]
  have hcall : Call.parse registry (f.invocation columns params) =
      .error (.expression (f.invocation columns params) "expected a single function call") := by
    rw [Call.parse, hnone]
  rw [compileCall, Expression.compile, Call.compiler_eq, hcall]
  rfl

end SpanningFunction

/-- **The call of a spanning metric reaches its function** just when none of
its arguments holds a line feed. It calls the function that is registered
under the name, with the columns and then the parameters, those of the
function itself if none are given, as they are: quotes, backslashes,
parentheses, commas, blanks and empty texts make no difference. With a line
feed in an argument the call is refused as a text that is no call. -/
theorem SpanningDefinition.call_reaches_function (d : SpanningDefinition)
    (definition : FunctionDefinition) (f : SpanningFunction) (registry : Registry)
    (contexts : PartContexts) (hfunction : d.function = some definition)
    (hregistered : registry.get? definition.name = some f)
    (hname : Call.IsName definition.name.toList) :
    let texts := d.columns ++ definition.params.getD f.defaultParams
    ((∀ t ∈ texts, '\n' ∉ t.toList) → ∃ call, d.compileCallIn contexts registry = .ok (some call) ∧
        call.function = definition.name ∧ call.params = definition.params.getD f.defaultParams ∧
        ∀ b, call.expression.evaluate b = f.call b (texts.map .string)) ∧
      ((∃ t ∈ texts, '\n' ∈ t.toList) → d.compileCallIn contexts registry =
        .error (contexts.function (.expression (f.invocation d.columns definition.params)
          "expected a single function call"))) := by
  intro texts
  have hf : f.name = definition.name := registry.named hregistered
  have hself : registry.get? f.name = some f := by rw [hf, hregistered]
  have hself' : Call.IsName f.name.toList := by rwa [hf]
  constructor
  · intro hline
    have hok : ∀ call, f.compileCall d.columns definition.params registry.compiler = .ok call →
        d.compileCallIn contexts registry = .ok (some call) := by
      intro call hcall
      rw [compileCallIn, hfunction]
      simp only [FunctionDefinition.compileIn, Registry.require, hregistered, hcall]
    exact ⟨_, hok _ (SpanningFunction.compileCall_of_one_line hself hself' hline), hf, rfl,
      fun b => rfl⟩
  · intro hnewline
    have hcall : f.compileCall d.columns definition.params registry.compiler = _ :=
      SpanningFunction.compileCall_of_newline hself' hnewline
    rw [compileCallIn, hfunction]
    simp only [FunctionDefinition.compileIn, Registry.require, hregistered, hcall]

namespace Echo

/-- A spanning metric that calls the function on some columns. -/
def metric (columns : List String) (params : Option (List String)) : SpanningDefinition :=
  ⟨"s", columns, none, some ⟨"echo", params⟩, .all, []⟩

/-- Quotes, a backslash, an empty text and a comma come back. -/
theorem call_echoes : ∃ call,
    (metric ["a \"b\"", "c\\"] (some ["", "), ("])).compileCallIn .bare registry =
        .ok (some call) ∧
      ∀ b, call.expression.evaluate b =
        .ok (.array [.string "a \"b\"", .string "c\\", .string "", .string "), ("]) := by
  obtain ⟨hcall, -⟩ := SpanningDefinition.call_reaches_function
    (metric ["a \"b\"", "c\\"] (some ["", "), ("])) ⟨"echo", some ["", "), ("]⟩ function registry
    .bare rfl rfl (by decide)
  obtain ⟨call, hcompile, -, -, heval⟩ := hcall (by decide)
  exact ⟨call, hcompile, heval⟩

/-- A document that is valid, whose only metric calls a registered function
on a column with a line feed in its name, and is refused. -/
theorem newline_is_refused :
    let rules : Rules := ⟨[], none, [metric ["a\nb"] none]⟩
    rules.validate = .ok () ∧ registry.get? "echo" = some function ∧
      Call.IsName "echo".toList ∧
      ∀ contexts call, (metric ["a\nb"] none).compileCallIn contexts registry ≠ .ok call := by
  refine ⟨rfl, rfl, by decide, ?_⟩
  intro contexts call h
  have hrefused : (metric ["a\nb"] none).compileCallIn contexts registry =
      .error (contexts.function
        (.expression "echo(\"a\nb\")" "expected a single function call")) := rfl
  rw [hrefused] at h
  cases h

end Echo

end DataQuality
