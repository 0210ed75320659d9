import DataQuality.Function.Arguments
/-!
# Argument lists — what may stand between the parentheses

The grammar of arguments, told without a reader: literals with commas
between them and blanks around them. The reader stands at a place of the
text; what it does over one piece of the grammar is one equation, and what
it must have found to come to an end is one inversion for each place. From
these the two agree: reading takes just the texts of the grammar, and gives
the values the grammar gives (`parse_eq_ok_iff`).
-/

namespace DataQuality

namespace Argument

open Text (isBlank AllBlank)

/-! ## The grammar -/

/-- The text that a body between quotes stands for. A backslash makes the
next character plain, whatever it is. -/
inductive Quoted : List Char → List Char → Prop
  | nil : Quoted [] []
  | plain {c : Char} {body text : List Char} : c ≠ '"' → c ≠ '\\' → Quoted body text →
      Quoted (c :: body) (c :: text)
  | escaped {c : Char} {body text : List Char} : Quoted body text →
      Quoted ('\\' :: c :: body) (c :: text)

/-- Whether a character ends a run that has no quotes. -/
def Delimits (c : Char) : Prop := c = ',' ∨ isBlank c = true

instance : DecidablePred Delimits := fun c =>
  inferInstanceAs (Decidable (c = ',' ∨ isBlank c = true))

/-- A literal and its value: a text in quotes, or a run without commas and
blanks that starts with no quote and spells an integer of 64 bits. -/
inductive Literal : List Char → Value → Prop
  | text {body text : List Char} : Quoted body text →
      Literal ('"' :: body ++ ['"']) (.string (String.ofList text))
  | number {run : List Char} {n : Int64} : (∀ c ∈ run, ¬Delimits c) → run.head? ≠ some '"' →
      Decimal.Spells run n.toInt → Literal run (.int n)

/-- A literal with blanks around it. -/
def Padded (s : List Char) (v : Value) : Prop :=
  ∃ front literal back, s = front ++ literal ++ back ∧ AllBlank front ∧ Literal literal v ∧
    AllBlank back

/-- Literals with commas between them, and their values in order. As a comma
or the end follows each of them, a run is as long as it can be. -/
inductive Listed : List Char → List Value → Prop
  | last {s : List Char} {v : Value} : Padded s v → Listed s [v]
  | more {s rest : List Char} {v : Value} {vs : List Value} : Padded s v → Listed rest vs →
      Listed (s ++ ',' :: rest) (v :: vs)

/-- What may stand between the parentheses: blanks, or literals. -/
inductive Body : List Char → List Value → Prop
  | blank {s : List Char} : AllBlank s → Body s []
  | listed {s : List Char} {vs : List Value} : Listed s vs → Body s vs

variable {s run body text rest : List Char} {read : List Char} {done vs : List Value} {v : Value}

/-- Whether a run without quotes cannot go on. -/
def Ends (rest : List Char) : Prop := ∀ c ∈ rest.head?, Delimits c

theorem ends_nil : Ends [] := nofun

theorem ends_cons {c : Char} (h : Delimits c) : Ends (c :: rest) := by
  intro d hd
  rw [← Option.some.inj hd]
  exact h

theorem ends_append {b : List Char} (hb : AllBlank b) (h : Ends rest) : Ends (b ++ rest) := by
  cases b with
  | nil => exact h
  | cons c b => exact ends_cons (.inr (hb c List.mem_cons_self))

/-! ## What the reader does at a character -/

theorem scan_before_cons {c : Char} : scan .before done (c :: rest) =
    if isBlank c then scan .before done rest
    else if c = '"' then scan (.literal []) done rest
    else if c = ',' then .error (.unexpectedToken [])
    else scan (.token [c]) done rest := by
  cases done <;> rfl

theorem scan_literal_cons {c : Char} : scan (.literal read) done (c :: rest) =
    if c = '\\' then scan (.escaped read) done rest
    else if c = '"' then scan .after (.string (String.ofList read.reverse) :: done) rest
    else scan (.literal (c :: read)) done rest := rfl

theorem scan_escaped_cons {c : Char} :
    scan (.escaped read) done (c :: rest) = scan (.literal (c :: read)) done rest := rfl

theorem scan_token_cons {c : Char} (h : ¬Delimits c) :
    scan (.token read) done (c :: rest) = scan (.token (c :: read)) done rest := by
  obtain ⟨hcomma, hblank⟩ := not_or.mp h
  exact (if_neg hcomma).trans (if_neg hblank)

theorem scan_after_nil : scan .after done [] = .ok done.reverse := rfl

theorem scan_after_cons {c : Char} : scan .after done (c :: rest) =
    if isBlank c then scan .after done rest
    else if c = ',' then scan .before done rest
    else .error (.unexpectedCharacter c) := rfl

/-! ## What the reader does over a piece -/

theorem scan_before_blanks {b : List Char} (hb : AllBlank b) :
    scan .before done (b ++ s) = scan .before done s := by
  induction b with
  | nil => rfl
  | cons c b ih =>
    obtain ⟨hc, hb⟩ := Text.allBlank_cons.mp hb
    rw [List.cons_append, scan_before_cons, if_pos hc, ih hb]

theorem scan_after_blanks {b : List Char} (hb : AllBlank b) :
    scan .after done (b ++ s) = scan .after done s := by
  induction b with
  | nil => rfl
  | cons c b ih =>
    obtain ⟨hc, hb⟩ := Text.allBlank_cons.mp hb
    rw [List.cons_append, scan_after_cons, if_pos hc, ih hb]

theorem scan_after_comma : scan .after done (',' :: rest) = scan .before done rest := by
  rw [scan_after_cons, if_neg (by decide), if_pos rfl]

/-- Over the body of a text in quotes. -/
theorem scan_literal (h : Quoted body text) :
    scan (.literal read) done (body ++ '"' :: rest) =
      scan .after (.string (String.ofList (read.reverse ++ text)) :: done) rest := by
  induction h generalizing read with
  | nil => rw [List.nil_append, scan_literal_cons, if_neg (by decide), if_pos rfl, List.append_nil]
  | plain hquote hslash _ ih =>
    rw [List.cons_append, scan_literal_cons, if_neg hslash, if_neg hquote, ih]
    simp
  | escaped _ ih =>
    rw [List.cons_append, List.cons_append, scan_literal_cons, if_pos rfl, scan_escaped_cons, ih]
    simp

/-- Over a run without quotes. -/
theorem scan_token (h : ∀ c ∈ run, ¬Delimits c) :
    scan (.token read) done (run ++ rest) = scan (.token (run.reverse ++ read)) done rest := by
  induction run generalizing read with
  | nil => rfl
  | cons c run ih =>
    obtain ⟨hc, hrun⟩ := List.forall_mem_cons.mp h
    rw [List.cons_append, scan_token_cons hc, ih hrun]
    simp

/-- At the end of a run the reader goes on as after any argument. -/
theorem scan_token_end (h : Ends rest) : scan (.token read) done rest =
    match number read with
    | .ok n => scan .after (n :: done) rest
    | .error problem => .error problem := by
  cases rest with
  | nil => rfl
  | cons c rest =>
    by_cases hcomma : c = ','
    · subst hcomma
      simp only [scan_after_comma]
      exact if_pos rfl
    · have hblank : isBlank c = true := (h c rfl).resolve_left hcomma
      simp only [scan_after_cons, if_pos hblank]
      exact (if_neg hcomma).trans (if_pos hblank)

/-- **A run is a number just when it spells one.** -/
theorem number_eq_ok_iff : number read = .ok v ↔
    ∃ n : Int64, v = .int n ∧ Decimal.Spells read.reverse n.toInt := by
  simp only [← Decimal.readInt64?_eq_some_iff]
  rw [number]
  constructor
  · intro h
    split at h
    · rename_i n hn
      exact ⟨n, (Except.ok.inj h).symm, hn⟩
    · cases h
  · rintro ⟨n, rfl, hn⟩
    rw [hn]

/-- Over a literal, if what follows could not be more of it. -/
theorem scan_before_literal (h : Literal s v) (hrest : Ends rest) :
    scan .before done (s ++ rest) = scan .after (v :: done) rest := by
  cases h with
  | text hbody =>
    rw [List.cons_append, List.cons_append, List.append_assoc, scan_before_cons,
      if_neg (by decide), if_pos rfl]
    exact scan_literal hbody
  | @number _ n hrun hquote hspells =>
    have hread : number s.reverse = .ok (.int n) :=
      number_eq_ok_iff.mpr ⟨n, rfl, by rwa [List.reverse_reverse]⟩
    cases s with
    | nil => exact absurd rfl (Decimal.Spells.ne_nil hspells)
    | cons c run =>
      obtain ⟨hc, htail⟩ := List.forall_mem_cons.mp hrun
      obtain ⟨hcomma, hblank⟩ := not_or.mp hc
      have hc : c ≠ '"' := fun he => hquote (by rw [he]; rfl)
      rw [List.cons_append, scan_before_cons, if_neg hblank, if_neg hc, if_neg hcomma,
        scan_token htail, ← List.reverse_cons, scan_token_end hrest, hread]

/-- Over a literal with its blanks. -/
theorem scan_before_padded (h : Padded s v) (hrest : Ends rest) :
    scan .before done (s ++ rest) = scan .after (v :: done) rest := by
  obtain ⟨front, literal, back, rfl, hfront, hliteral, hback⟩ := h
  rw [List.append_assoc, List.append_assoc, scan_before_blanks hfront,
    scan_before_literal hliteral (ends_append hback hrest), scan_after_blanks hback]

/-- Over a list of literals, to the end of the text. -/
theorem scan_before_listed (h : Listed s vs) :
    scan .before done s = .ok (done.reverse ++ vs) := by
  induction h generalizing done with
  | @last s v hpadded =>
    have hread : scan .before done (s ++ []) = _ := scan_before_padded hpadded ends_nil
    rw [List.append_nil] at hread
    rw [hread, scan_after_nil, List.reverse_cons]
  | more hpadded _ ih =>
    rw [scan_before_padded hpadded (ends_cons (.inl rfl)), scan_after_comma, ih]
    simp

/-! ## What a reader that ends has found -/

/-- After an argument: blanks and the end, or blanks and a comma. -/
theorem scan_after_ok (h : scan .after done s = .ok vs) :
    (AllBlank s ∧ vs = done.reverse) ∨
      ∃ b rest, s = b ++ ',' :: rest ∧ AllBlank b ∧ scan .before done rest = .ok vs := by
  induction s with
  | nil => exact .inl ⟨Text.allBlank_nil, (Except.ok.inj h).symm⟩
  | cons c s ih =>
    rw [scan_after_cons] at h
    split at h
    · rename_i hc
      obtain ⟨hs, hvs⟩ | ⟨b, rest, rfl, hb, hrest⟩ := ih h
      · exact .inl ⟨Text.allBlank_cons.mpr ⟨hc, hs⟩, hvs⟩
      · exact .inr ⟨c :: b, rest, rfl, Text.allBlank_cons.mpr ⟨hc, hb⟩, hrest⟩
    · split at h
      · rename_i hcomma
        subst hcomma
        exact .inr ⟨[], s, rfl, Text.allBlank_nil, h⟩
      · cases h

/-- Between quotes: the rest of a body and a quote. -/
theorem scan_literal_ok {s read : List Char} (h : scan (.literal read) done s = .ok vs) :
    ∃ body text rest, s = body ++ '"' :: rest ∧ Quoted body text ∧
      scan .after (.string (String.ofList (read.reverse ++ text)) :: done) rest = .ok vs := by
  cases s with
  | nil => cases h
  | cons c s =>
    rw [scan_literal_cons] at h
    split at h
    · rename_i hslash
      subst hslash
      -- A backslash takes the character after it along.
      cases s with
      | nil => cases h
      | cons d s =>
        rw [scan_escaped_cons] at h
        obtain ⟨body, text, rest, rfl, hbody, hrest⟩ := scan_literal_ok h
        rw [List.reverse_cons, List.append_assoc] at hrest
        exact ⟨'\\' :: d :: body, d :: text, rest, rfl, .escaped hbody, hrest⟩
    · rename_i hslash
      split at h
      · rename_i hquote
        subst hquote
        refine ⟨[], [], s, rfl, .nil, ?_⟩
        rwa [List.append_nil]
      · rename_i hquote
        obtain ⟨body, text, rest, rfl, hbody, hrest⟩ := scan_literal_ok h
        rw [List.reverse_cons, List.append_assoc] at hrest
        exact ⟨c :: body, c :: text, rest, rfl, .plain hquote hslash hbody, hrest⟩
termination_by s.length

/-- In a run without quotes: the rest of the run, which spells an integer. -/
theorem scan_token_ok (h : scan (.token read) done s = .ok vs) :
    ∃ run rest v, s = run ++ rest ∧ (∀ c ∈ run, ¬Delimits c) ∧ Ends rest ∧
      number (run.reverse ++ read) = .ok v ∧ scan .after (v :: done) rest = .ok vs := by
  induction s generalizing read with
  | nil =>
    rw [scan_token_end ends_nil] at h
    split at h
    · rename_i n hn
      exact ⟨[], [], n, rfl, nofun, ends_nil, hn, h⟩
    · cases h
  | cons c s ih =>
    by_cases hc : Delimits c
    · rw [scan_token_end (ends_cons hc)] at h
      split at h
      · rename_i n hn
        exact ⟨[], c :: s, n, rfl, nofun, ends_cons hc, hn, h⟩
      · cases h
    · rw [scan_token_cons hc] at h
      obtain ⟨run, rest, v, rfl, hrun, hends, hnumber, hrest⟩ := ih h
      refine ⟨c :: run, rest, v, rfl, List.forall_mem_cons.mpr ⟨hc, hrun⟩, hends, ?_, hrest⟩
      rwa [List.reverse_cons, List.append_assoc]

/-- Before an argument: blanks and the end, if nothing was read yet, or
blanks and a literal. -/
theorem scan_before_ok (h : scan .before done s = .ok vs) :
    (AllBlank s ∧ done = [] ∧ vs = []) ∨
      ∃ b literal v rest, s = b ++ literal ++ rest ∧ AllBlank b ∧ Literal literal v ∧
        scan .after (v :: done) rest = .ok vs := by
  induction s with
  | nil =>
    cases done with
    | nil => exact .inl ⟨Text.allBlank_nil, rfl, (Except.ok.inj h).symm⟩
    | cons _ _ => cases h
  | cons c s ih =>
    rw [scan_before_cons] at h
    split at h
    · rename_i hc
      obtain ⟨hs, hdone⟩ | ⟨b, literal, v, rest, rfl, hb, hliteral, hrest⟩ := ih h
      · exact .inl ⟨Text.allBlank_cons.mpr ⟨hc, hs⟩, hdone⟩
      · exact .inr ⟨c :: b, literal, v, rest, rfl, Text.allBlank_cons.mpr ⟨hc, hb⟩, hliteral, hrest⟩
    · rename_i hblank
      right
      split at h
      · rename_i hquote
        subst hquote
        obtain ⟨body, text, rest, rfl, hbody, hrest⟩ := scan_literal_ok h
        refine ⟨[], '"' :: body ++ ['"'], _, rest, ?_, Text.allBlank_nil, .text hbody, hrest⟩
        simp
      · rename_i hquote
        split at h
        · cases h
        · rename_i hcomma
          obtain ⟨run, rest, v, rfl, hrun, -, hnumber, hrest⟩ := scan_token_ok h
          obtain ⟨n, rfl, hspells⟩ := number_eq_ok_iff.mp hnumber
          rw [List.reverse_append, List.reverse_reverse] at hspells
          have hall : ∀ d ∈ c :: run, ¬Delimits d :=
            List.forall_mem_cons.mpr ⟨not_or.mpr ⟨hcomma, hblank⟩, hrun⟩
          refine ⟨[], c :: run, _, rest, rfl, Text.allBlank_nil, ?_, hrest⟩
          exact .number hall (fun he => hquote (Option.some.inj he)) hspells

/-- **To the end of the text**: nothing but blanks, or a list of literals.
A list goes on after its comma, so the recursion is on the length. -/
theorem listed_of_scan_before {s : List Char} {done : List Value}
    (h : scan .before done s = .ok vs) :
    (AllBlank s ∧ done = [] ∧ vs = []) ∨ ∃ ws, Listed s ws ∧ vs = done.reverse ++ ws := by
  obtain hnone | ⟨front, literal, v, rest, hs, hfront, hliteral, hrest⟩ := scan_before_ok h
  · exact .inl hnone
  · right
    obtain ⟨hback, hvs⟩ | ⟨back, more, hcomma, hback, hmore⟩ := scan_after_ok hrest
    · refine ⟨[v], .last ⟨front, literal, rest, hs, hfront, hliteral, hback⟩, ?_⟩
      rw [hvs, List.reverse_cons]
    · have hsplit : s = (front ++ literal ++ back) ++ ',' :: more := by
        rw [hs, hcomma, List.append_assoc _ back]
      have hlt : more.length < s.length := by
        rw [hsplit, List.length_append, List.length_cons]
        omega
      obtain ⟨-, hdone, -⟩ | ⟨ws, hlisted, hvs⟩ := listed_of_scan_before hmore
      · cases hdone
      · refine ⟨v :: ws, ?_, ?_⟩
        · rw [hsplit]
          exact .more ⟨front, literal, back, rfl, hfront, hliteral, hback⟩ hlisted
        · rw [hvs, List.reverse_cons, List.append_assoc, List.singleton_append]
termination_by s.length

/-! ## Agreement -/

/-- **Reading takes just the texts of the grammar**, and gives the values in
their order. -/
theorem parse_eq_ok_iff : parse s = .ok vs ↔ Body s vs := by
  rw [parse]
  constructor
  · intro h
    obtain ⟨hblank, -, rfl⟩ | ⟨ws, hlisted, hvs⟩ := listed_of_scan_before h
    · exact .blank hblank
    · rw [hvs]
      exact .listed hlisted
  · rintro (hblank | hlisted)
    · have hread : scan .before [] (s ++ []) = _ := scan_before_blanks hblank
      rw [List.append_nil] at hread
      exact hread
    · exact scan_before_listed hlisted

end Argument

end DataQuality
