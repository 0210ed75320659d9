import DataQuality.Function.Call
import DataQuality.Function.Stock
import DataQuality.Proofs.Function.Arguments
import DataQuality.Proofs.Text.Scanning
/-!
# Calls — the language of call texts

The outer shape of a call text, told without a reader: a name, and a body in
parentheses, with blanks around and between. A text has at most one shape,
since a name ends at the first character that cannot be of it and a body at
the last parenthesis of the text. Reading takes just the texts that have a
shape on one line, whose name is registered and whose body is of the grammar
of arguments, and tells apart what is wrong with the others.
-/

namespace DataQuality

namespace Call

open Text (isBlank AllBlank dropBlanks)

/-! ## The outer shape -/

/-- A letter of ASCII or an underscore. -/
def NameStart (c : Char) : Prop := ('A' ≤ c ∧ c ≤ 'Z') ∨ ('a' ≤ c ∧ c ≤ 'z') ∨ c = '_'

/-- A letter of ASCII, an underscore or a decimal digit. -/
def NamePart (c : Char) : Prop := NameStart c ∨ ('0' ≤ c ∧ c ≤ '9')

instance (c : Char) : Decidable (NameStart c) := inferInstanceAs (Decidable (_ ∨ _ ∨ _))

instance (c : Char) : Decidable (NamePart c) := inferInstanceAs (Decidable (_ ∨ _))

/-- The names that a call text can have. -/
def IsName : List Char → Prop
  | [] => False
  | c :: rest => NameStart c ∧ ∀ d ∈ rest, NamePart d

instance : DecidablePred IsName
  | [] => .isFalse id
  | _ :: rest => @instDecidableAnd _ _ inferInstance (List.decidableBAll NamePart rest)

/-- A name and a body in parentheses, with blanks around and between. -/
def Framed (s name body : List Char) : Prop :=
  ∃ front between back, s = front ++ name ++ between ++ '(' :: body ++ ')' :: back ∧
    AllBlank front ∧ IsName name ∧ AllBlank between ∧ AllBlank back

/-- The shape of a call text: its body holds no line feed. -/
def Shaped (s name body : List Char) : Prop := Framed s name body ∧ '\n' ∉ body

variable {s name body rest tail back : List Char} {c : Char}

theorem startsName_iff : startsName c = true ↔ NameStart c := by
  have hupper : c.isUpper = true ↔ 'A' ≤ c ∧ c ≤ 'Z' := decide_eq_true_iff
  have hlower : c.isLower = true ↔ 'a' ≤ c ∧ c ≤ 'z' :=
    (Bool.and_eq_true_iff ..).trans (and_congr decide_eq_true_iff decide_eq_true_iff)
  have halpha : c.isAlpha = true ↔ c.isUpper = true ∨ c.isLower = true := Bool.or_eq_true_iff ..
  rw [startsName, Bool.or_eq_true, beq_iff_eq, halpha, hupper, hlower, or_assoc, NameStart]

theorem continuesName_iff : continuesName c = true ↔ NamePart c := by
  have hdigit : c.isDigit = true ↔ '0' ≤ c ∧ c ≤ '9' :=
    (Bool.and_eq_true_iff ..).trans (and_congr decide_eq_true_iff decide_eq_true_iff)
  have halphanum : c.isAlphanum = true ↔ c.isAlpha = true ∨ c.isDigit = true :=
    Bool.or_eq_true_iff ..
  rw [NamePart, ← startsName_iff, startsName, continuesName, Bool.or_eq_true, Bool.or_eq_true,
    halphanum, hdigit, or_right_comm]

theorem NamePart.isBlank_eq_false (h : NamePart c) : isBlank c = false := by
  refine Text.isBlank_eq_false ?_
  rcases h with (⟨hlow, hhigh⟩ | ⟨hlow, hhigh⟩ | rfl) | ⟨hlow, hhigh⟩
  · exact ⟨Std.le_trans (by decide) hlow, Std.le_trans hhigh (by decide)⟩
  · exact ⟨Std.le_trans (by decide) hlow, Std.le_trans hhigh (by decide)⟩
  · decide
  · exact ⟨Std.le_trans (by decide) hlow, Std.le_trans hhigh (by decide)⟩

/-! ## The parts of a shape -/

/-- A name ends where blanks or a parenthesis follow it. -/
theorem continuesName_eq_false (hblank : AllBlank tail) :
    ∀ c ∈ (tail ++ '(' :: rest).head?, continuesName c = false := by
  intro c hc
  cases tail with
  | nil =>
    rw [← Option.some.inj hc]
    decide
  | cons d tail =>
    rw [← Option.some.inj hc, ← Bool.not_eq_true, continuesName_iff]
    intro hpart
    have hd : isBlank d = true := hblank d List.mem_cons_self
    rw [hpart.isBlank_eq_false] at hd
    cases hd

/-- **A body ends at the last parenthesis**, and only blanks follow it. -/
theorem beforeClosing?_eq_some_iff :
    beforeClosing? s = some body ↔ ∃ back, s = body ++ ')' :: back ∧ AllBlank back := by
  rw [beforeClosing?]
  constructor
  · intro h
    split at h
    · rename_i reversed hdrop
      cases h
      obtain ⟨b, hb, hs⟩ := Text.exists_append_dropBlanks s.reverse
      rw [hdrop] at hs
      refine ⟨b.reverse, ?_, fun c hc => hb c (List.mem_reverse.mp hc)⟩
      rw [← List.reverse_reverse s, hs]
      simp
    · cases h
  · rintro ⟨back, rfl, hback⟩
    have hreverse : (body ++ ')' :: back).reverse = back.reverse ++ ')' :: body.reverse := by simp
    have hblank : AllBlank back.reverse := fun c hc => hback c (List.mem_reverse.mp hc)
    rw [hreverse, Text.dropBlanks_append hblank, Text.dropBlanks_cons (by decide)]
    simp

/-- A framed text is read unless its body goes over a line. -/
theorem shape?_of_framed (h : Framed s name body) :
    shape? s = if body.contains '\n' then none else some (name, body) := by
  obtain ⟨front, between, back, rfl, hfront, hname, hbetween, hback⟩ := h
  obtain _ | ⟨c, rest⟩ := name
  · cases hname
  obtain ⟨hc, hrest⟩ := hname
  have hnotBlank : isBlank c = false := NamePart.isBlank_eq_false (.inl hc)
  have hends : ∀ d ∈ (between ++ '(' :: (body ++ ')' :: back)).head?, continuesName d = false :=
    continuesName_eq_false hbetween
  obtain ⟨htake, hdrop⟩ := Text.takeWhile_dropWhile_append
    (fun d hd => continuesName_iff.mpr (hrest d hd)) hends
  have hclosing : beforeClosing? (body ++ ')' :: back) = some body :=
    beforeClosing?_eq_some_iff.mpr ⟨back, rfl, hback⟩
  have hassoc : front ++ c :: rest ++ between ++ '(' :: body ++ ')' :: back =
      front ++ c :: (rest ++ (between ++ '(' :: (body ++ ')' :: back))) := by simp
  rw [shape?, hassoc, Text.dropBlanks_append hfront, Text.dropBlanks_cons hnotBlank]
  simp only [if_pos (startsName_iff.mpr hc), htake, hdrop, Text.dropBlanks_append hbetween]
  rw [Text.dropBlanks_cons (by decide)]
  simp only [hclosing]

/-- What is read has the shape that is read off it. -/
theorem shaped_of_shape? (h : shape? s = some (name, body)) : Shaped s name body := by
  obtain ⟨front, hfront, hs⟩ := Text.exists_append_dropBlanks s
  rw [shape?] at h
  split at h
  · cases h
  · rename_i c rest hdrop
    split at h
    · rename_i hc
      obtain ⟨between, hbetween, hafter⟩ :=
        Text.exists_append_dropBlanks (rest.dropWhile continuesName)
      split at h
      · rename_i inside hparen
        split at h
        · rename_i body' hclosing
          obtain ⟨back, hinside, hback⟩ := beforeClosing?_eq_some_iff.mp hclosing
          split at h
          · cases h
          · rename_i hline
            cases h
            have hrest : rest = rest.takeWhile continuesName ++
                (between ++ '(' :: (body ++ ')' :: back)) := by
              rw [← hinside, ← hparen, ← hafter, List.takeWhile_append_dropWhile]
            have hname : ∀ d ∈ rest.takeWhile continuesName, NamePart d := fun d hd =>
              continuesName_iff.mp (List.all_eq_true.mp List.all_takeWhile d hd)
            refine ⟨⟨front, between, back, ?_, hfront, ⟨startsName_iff.mp hc, hname⟩,
              hbetween, hback⟩, by simpa using hline⟩
            have hwhole := congrArg (fun r => front ++ c :: r) hrest
            rw [hs, hdrop]
            simpa using hwhole
        · cases h
      · cases h
    · cases h

/-- **The shape of a text is what is read of it**; so it has at most one. -/
theorem shape?_eq_some_iff : shape? s = some (name, body) ↔ Shaped s name body := by
  constructor
  · exact shaped_of_shape?
  · rintro ⟨hframed, hline⟩
    rw [shape?_of_framed hframed, if_neg (by simpa using hline)]

/-! ## Reading -/

variable {registry : Registry} {source : String} {call : Call} {f : SpanningFunction}

theorem parse_of_not_shaped (h : ∀ name body, ¬Shaped source.toList name body) :
    parse registry source = .error (.expression source "expected a single function call") := by
  have hnone : shape? source.toList = none := by
    rw [Option.eq_none_iff_forall_ne_some]
    rintro ⟨name, body⟩ hsome
    exact h name body (shape?_eq_some_iff.mp hsome)
  rw [parse, hnone]

theorem parse_of_unregistered (h : Shaped source.toList name body)
    (hname : registry.get? (String.ofList name) = none) :
    parse registry source = .error (.unknownFunction (String.ofList name)) := by
  rw [parse, shape?_eq_some_iff.mpr h]
  simp only [Registry.require, hname]

/-- With a registered name, what is read of the body decides. -/
theorem parse_of_registered (h : Shaped source.toList name body)
    (hname : registry.get? (String.ofList name) = some f) :
    parse registry source =
      match Argument.parse body with
      | .error problem => .error (.expression source problem.message)
      | .ok arguments => .ok ⟨f, arguments⟩ := by
  rw [parse, shape?_eq_some_iff.mpr h]
  cases hbody : Argument.parse body with
  | error problem => simp only [Registry.require, hname, hbody]
  | ok arguments => simp only [Registry.require, hname, hbody]

theorem parse_eq_ok_iff : parse registry source = .ok call ↔
    ∃ name body, Shaped source.toList name body ∧
      registry.get? (String.ofList name) = some call.function ∧
      Argument.Body body call.arguments := by
  constructor
  · intro h
    by_cases hshaped : ∃ name body, Shaped source.toList name body
    · obtain ⟨name, body, hshaped⟩ := hshaped
      cases hname : registry.get? (String.ofList name) with
      | none =>
        rw [parse_of_unregistered hshaped hname] at h
        cases h
      | some f =>
        rw [parse_of_registered hshaped hname] at h
        split at h
        · cases h
        · rename_i arguments hbody
          cases h
          exact ⟨name, body, hshaped, hname, Argument.parse_eq_ok_iff.mp hbody⟩
    · rw [parse_of_not_shaped fun name body hs => hshaped ⟨name, body, hs⟩] at h
      cases h
  · rintro ⟨name, body, hshaped, hname, hbody⟩
    rw [parse_of_registered hshaped hname, Argument.parse_eq_ok_iff.mpr hbody]

/-- What a compiled text means is what the call in it means. -/
theorem compiler_eq : registry.compiler source = (parse registry source).map evaluate := by
  rw [Registry.compiler]
  cases parse registry source <;> rfl

/-- **Calls are read from just the texts of their language.** A text that has
a shape, a registered name and a body of the grammar is compiled to a call
of the function of that name with the values the grammar gives, and no other
text is. Of the others, one without a shape is refused as it is; one whose
name is not registered is refused for the name, whatever its body is; and
one whose body alone is wrong is refused for its body. -/
theorem parse_accepts_language (registry : Registry) (source : String) :
    (∀ call : Call, parse registry source = .ok call ↔
      ∃ name body, Shaped source.toList name body ∧
        registry.get? (String.ofList name) = some call.function ∧
        Argument.Body body call.arguments) ∧
      ((∀ name body, ¬Shaped source.toList name body) →
        parse registry source = .error (.expression source "expected a single function call")) ∧
      (∀ name body, Shaped source.toList name body →
        registry.get? (String.ofList name) = none →
          parse registry source = .error (.unknownFunction (String.ofList name))) ∧
      (∀ name body f, Shaped source.toList name body →
        registry.get? (String.ofList name) = some f → (∀ arguments, ¬Argument.Body body arguments) →
          ∃ reason, parse registry source = .error (.expression source reason)) ∧
      registry.compiler source =
        (parse registry source).map fun call b => call.function.call b call.arguments := by
  refine ⟨fun call => parse_eq_ok_iff, parse_of_not_shaped, fun name body => parse_of_unregistered,
    ?_, compiler_eq⟩
  intro name body f hshaped hname hbody
  rw [parse_of_registered hshaped hname]
  cases hparse : Argument.parse body with
  | error problem => exact ⟨problem.message, rfl⟩
  | ok arguments => exact absurd (Argument.parse_eq_ok_iff.mp hparse) (hbody arguments)

end Call

namespace Echo

/-- A function that results in its arguments. -/
def function : SpanningFunction := .stock "echo" "echo" []

/-- The registry of that function and no other. -/
def registry : Registry := Registry.empty.insert function

/-- A call with blanks, a comma, a parenthesis and an escaped quote in a text,
and a negative number; a text without an end; and a name that is unknown,
which counts before its body is looked at. -/
theorem call_is_read :
    Call.parse registry " echo (\"a,)\\\"\" , -7)\n" =
        .ok ⟨function, [.string "a,)\"", .int (-7)]⟩ ∧
      Call.parse registry "ohce(" = .error (.expression "ohce(" "expected a single function call") ∧
      Call.parse registry "ohce(,)" = .error (.unknownFunction "ohce") := by
  obtain ⟨hcall, -, -, -, -⟩ :=
    Call.parse_accepts_language registry " echo (\"a,)\\\"\" , -7)\n"
  obtain ⟨-, hshape, -, -, -⟩ := Call.parse_accepts_language registry "ohce("
  obtain ⟨-, -, hname, -, -⟩ := Call.parse_accepts_language registry "ohce(,)"
  have hquoted : Argument.Quoted "a,)\\\"".toList "a,)\"".toList :=
    .plain (by decide) (by decide) <| .plain (by decide) (by decide) <|
      .plain (by decide) (by decide) <| .escaped .nil
  have hfirst : Argument.Padded "\"a,)\\\"\" ".toList (.string "a,)\"") :=
    ⟨[], _, [' '], rfl, by decide, .text hquoted, by decide⟩
  have hrun : ∀ c ∈ ['-', '7'], ¬Argument.Delimits c := by
    simp only [List.forall_mem_cons]
    exact ⟨by decide, by decide, nofun⟩
  have hseven : Decimal.IsDigits ['7'] := by decide
  have hsecond : Argument.Padded " -7".toList (.int (-7)) :=
    ⟨[' '], ['-', '7'], [], rfl, by decide,
      .number hrun (by decide) (.minus hseven), by decide⟩
  refine ⟨(hcall _).mpr ⟨"echo".toList, "\"a,)\\\"\" , -7".toList, ?_, rfl, ?_⟩, ?_, ?_⟩
  · exact ⟨⟨[' '], [' '], ['\n'], by decide⟩, by decide⟩
  · exact .listed (.more hfirst (.last hsecond))
  · refine hshape fun name body h => ?_
    have hread := Call.shape?_eq_some_iff.mpr h
    cases hread
  · exact hname "ohce".toList ",".toList ⟨⟨[], [], [], by decide⟩, by decide⟩ rfl

end Echo

end DataQuality
