import DataQuality.Proofs.Function.Invocation
/-!
# Quoting — what the reader undoes

A text is quoted by two replacements: first every backslash is doubled, then every
quotation mark gets a backslash in front. The reader of arguments undoes both in one
go. It does so whatever stands behind the closing quotation mark: among the texts that
begin with a quoted one there is only one place where it can end (`Quoted.ends_once`).
So a list of quoted texts is read as that list, and no two lists are quoted alike.
-/

namespace DataQuality

namespace Argument

variable {body body' text text' rest rest' : List Char}

/-! ## Two replacements -/

/-- A text with a character replaced wherever it stands. -/
def replaceEach (c : Char) (new s : List Char) : List Char :=
  s.flatMap fun d => if d = c then new else [d]

theorem replaceEach_cons (c d : Char) (new s : List Char) :
    replaceEach c new (d :: s) = (if d = c then new else [d]) ++ replaceEach c new s :=
  List.flatMap_cons

/-- Escaping character by character is replacing twice. The order matters: a backslash
that is put before a quotation mark is not doubled. -/
theorem escape_eq (s : List Char) :
    escape s = replaceEach '"' ['\\', '"'] (replaceEach '\\' ['\\', '\\'] s) := by
  induction s with
  | nil => rfl
  | cons c s ih =>
    rw [escape, ih, replaceEach_cons]
    by_cases hslash : c = '\\'
    · subst hslash
      rfl
    · rw [if_neg hslash, List.singleton_append, replaceEach_cons]
      by_cases hquote : c = '"'
      · subst hquote
        rfl
      · rw [if_neg hquote, if_neg (not_or.mpr ⟨hquote, hslash⟩)]
        rfl

/-- Quoted texts are joined by a comma and a space. -/
theorem quoteAll_eq (texts : List String) :
    quoteAll texts = [',', ' '].intercalate (texts.map quote) := by
  induction texts with
  | nil => rfl
  | cons t texts ih =>
    cases texts with
    | nil => exact (List.append_nil _).symm
    | cons u texts =>
      rw [quoteAll, ih]
      rfl

/-! ## One place to end -/

/-- **A body between quotes ends at one place**, and stands for one text: a quotation
mark in it has a backslash in front, which is no character of its own. -/
theorem Quoted.ends_once (h : Quoted body text) (h' : Quoted body' text')
    (he : body ++ '"' :: rest = body' ++ '"' :: rest') : text = text' ∧ rest = rest' := by
  induction h generalizing body' text' with
  | nil =>
    cases h' with
    | nil => exact ⟨rfl, (List.cons.inj he).2⟩
    | plain hquote => exact absurd (List.cons.inj he).1.symm hquote
    | escaped => exact absurd (List.cons.inj he).1 (by decide)
  | @plain c body text hquote hslash _ ih =>
    cases h' with
    | nil => exact absurd (List.cons.inj he).1 hquote
    | plain _ _ hbody' =>
      obtain ⟨rfl, htail⟩ := List.cons.inj he
      obtain ⟨rfl, hrest⟩ := ih hbody' htail
      exact ⟨rfl, hrest⟩
    | escaped => exact absurd (List.cons.inj he).1 hslash
  | @escaped c body text _ ih =>
    cases h' with
    | nil => exact absurd (List.cons.inj he).1 (by decide)
    | plain _ hslash => exact absurd (List.cons.inj he).1.symm hslash
    | escaped hbody' =>
      obtain ⟨rfl, htail⟩ := List.cons.inj (List.cons.inj he).2
      obtain ⟨rfl, hrest⟩ := ih hbody' htail
      exact ⟨rfl, hrest⟩

theorem quote_append (t : String) (rest : List Char) :
    quote t ++ rest = '"' :: (escape t.toList ++ '"' :: rest) := by
  rw [quote, List.cons_append, List.cons_append, List.append_assoc]
  rfl

/-- However a quoted text and what follows it are taken for a literal and what follows
that, it is the text that was quoted. -/
theorem quote_ends_once {t : String} (h : Quoted body text)
    (he : quote t ++ rest = '"' :: (body ++ '"' :: rest')) :
    text = t.toList ∧ rest = rest' := by
  rw [quote_append] at he
  obtain ⟨htext, hrest⟩ := (quoted_escape t.toList).ends_once h (List.cons.inj he).2
  exact ⟨htext.symm, hrest⟩

theorem quote_injective : Function.Injective quote := by
  intro t u he
  have hbody : quote t ++ [] = '"' :: (escape u.toList ++ '"' :: []) := by
    rw [he, quote_append]
  exact String.toList_inj.mp (quote_ends_once (quoted_escape u.toList) hbody).1.symm

/-! ## Reading -/

/-- Over a quoted text the reader takes that text, whatever follows. -/
theorem scan_quote (t : String) (done : List Value) (rest : List Char) :
    scan .before done (quote t ++ rest) = scan .after (.string t :: done) rest := by
  rw [quote_append, scan_before_cons, if_neg (by decide), if_pos rfl,
    scan_literal (quoted_escape t.toList), List.reverse_nil, List.nil_append, String.ofList_toList]

theorem parse_quoteAll (texts : List String) :
    parse (quoteAll texts) = .ok (texts.map .string) :=
  parse_eq_ok_iff.mpr (body_quoteAll texts)

theorem quoteAll_injective : Function.Injective quoteAll := by
  intro texts others he
  have hread := parse_quoteAll texts
  rw [he, parse_quoteAll] at hread
  exact ((List.map_inj_right fun _ _ => Value.string.inj).mp (Except.ok.inj hread)).symm

/-- **Quoting and reading arguments undo each other.** Texts are quoted by two
replacements and joined by a comma and a space; reading gives the texts back, whatever
characters they hold. No text ends early and none runs into what follows it. -/
theorem quoting_is_undone :
    (∀ t, quote t = '"' ::
      replaceEach '"' ['\\', '"'] (replaceEach '\\' ['\\', '\\'] t.toList) ++ ['"']) ∧
    (∀ texts, quoteAll texts = [',', ' '].intercalate (texts.map quote)) ∧
    (∀ texts, parse (quoteAll texts) = .ok (texts.map .string)) ∧
    Function.Injective quote ∧ Function.Injective quoteAll ∧
    (∀ t done rest, scan .before done (quote t ++ rest) = scan .after (.string t :: done) rest) ∧
    ∀ t rest body text rest', Quoted body text →
      quote t ++ rest = '"' :: (body ++ '"' :: rest') → text = t.toList ∧ rest = rest' := by
  refine ⟨fun t => ?_, quoteAll_eq, parse_quoteAll, quote_injective, quoteAll_injective, scan_quote,
    fun t rest body text rest' => quote_ends_once⟩
  rw [quote, escape_eq]

end Argument

end DataQuality
