import DataQuality.Json.Reader
import DataQuality.Proofs.Text.Scanning
/-!
# Written trees — the text of a tree is read as the tree

A tree is written on one line or on indented ones; the two differ in the blanks between
its parts. Where the numerals are well formed and the strings are bodies of texts
(`Written`), each part is split off by the reader, and nothing is taken of what follows
(`Scans`). An array and an object are split off where their parts are, with any blanks
around these (`scans_array`, `scans_object`). So the reader gives back the tree that was
written, whichever way it was (`ofText?_compact`, `ofText?_pretty`).
-/

namespace DataQuality

namespace Decimal

/-- The digits before the point are no fewer than one and led by no zero, as
the grammar of numbers has it. -/
structure Numeral.WellFormed (n : Numeral) : Prop where
  whole_ne_nil : n.whole ≠ []
  whole_digits : ∀ c ∈ n.whole, c.isDigit = true
  whole_leads : ∀ rest, n.whole = '0' :: rest → rest = []
  fraction_digits : ∀ c ∈ n.fraction, c.isDigit = true

/-- **Only zero is led by a zero.** -/
theorem digitsOf_leads (n : Nat) : ∀ rest, digitsOf n = '0' :: rest → rest = [] := by
  induction n using Nat.strongRecOn with
  | ind n ih =>
    intro rest h
    rw [digitsOf] at h
    rcases Nat.lt_or_ge n 10 with hlt | hge
    · rw [Nat.toDigits_of_lt_base hlt] at h
      exact (List.cons.inj h).2.symm
    · -- The leading digits are those of a tenth, which is not zero.
      rw [Nat.toDigits_of_base_le (by decide) hge] at h
      obtain ⟨c, lead, hlead⟩ :=
        List.exists_cons_of_ne_nil (Nat.toDigits_ne_nil (n := n / 10) (b := 10))
      rw [hlead] at h
      obtain ⟨rfl, -⟩ := List.cons.inj h
      have hnil : lead = [] := ih (n / 10) (by omega) lead hlead
      have hzero := ofDigits_digitsOf (n / 10)
      rw [digitsOf, hlead, hnil] at hzero
      have : ofDigits ['0'] = 0 := rfl
      omega

/-- The numeral of an integer is well formed. -/
theorem Numeral.wellFormed_ofInt (n : Int) : (Numeral.ofInt n).WellFormed where
  whole_ne_nil := Nat.toDigits_ne_nil
  whole_digits _ := isDigit_of_mem_digitsOf
  whole_leads := digitsOf_leads n.natAbs
  fraction_digits _ h := absurd h List.not_mem_nil

end Decimal

namespace Json

open Decimal (Numeral digitsOf ofDigits exponentText)
open Text (quoteBody)

variable {s rest run body : List Char} {c : Char} {fuel : Nat} {t : Tree}

/-! ## Numerals -/

/-- A text that no numeral goes on with. -/
def EndsNumeral (s : List Char) : Prop :=
  ∀ c ∈ s.head?, c.isDigit = false ∧ c ≠ '.' ∧ c ≠ 'e' ∧ c ≠ 'E'

theorem endsNumeral_nil : EndsNumeral [] := nofun

theorem endsNumeral_cons (hdigit : c.isDigit = false) (hpoint : c ≠ '.') (he : c ≠ 'e')
    (hE : c ≠ 'E') : EndsNumeral (c :: s) := by
  intro d hd
  cases hd
  exact ⟨hdigit, hpoint, he, hE⟩

theorem scanWhole_append (hne : run ≠ []) (hdigits : ∀ c ∈ run, c.isDigit = true)
    (hleads : ∀ rest, run = '0' :: rest → rest = [])
    (hstop : ∀ c ∈ rest.head?, c.isDigit = false) : scanWhole (run ++ rest) = some (run, rest) := by
  obtain ⟨htake, hdrop⟩ := Text.takeWhile_dropWhile_append hdigits hstop
  rw [scanWhole, htake, hdrop]
  split
  · exact absurd rfl hne
  · cases hleads _ rfl
  · rfl

theorem scanFraction_append (hdigits : ∀ c ∈ run, c.isDigit = true)
    (hstop : ∀ c ∈ rest.head?, c.isDigit = false ∧ c ≠ '.') :
    scanFraction ((if run.isEmpty then [] else '.' :: run) ++ rest) = some (run, rest) := by
  cases run with
  | nil => exact scanFraction.eq_2 rest fun s h => (hstop '.' (by rw [h]; rfl)).2 rfl
  | cons d run =>
    obtain ⟨htake, hdrop⟩ := Text.takeWhile_dropWhile_append hdigits fun c hc => (hstop c hc).1
    change scanFraction ('.' :: (d :: run ++ rest)) = _
    rw [scanFraction, htake, hdrop]

theorem scanNatural_append (n : Nat) (hstop : ∀ c ∈ rest.head?, c.isDigit = false) :
    scanNatural (digitsOf n ++ rest) = some (n, rest) := by
  obtain ⟨htake, hdrop⟩ :=
    Text.takeWhile_dropWhile_append (fun c => Decimal.isDigit_of_mem_digitsOf (n := n)) hstop
  rw [scanNatural, htake, hdrop]
  split
  · rename_i hnil
    exact absurd hnil Nat.toDigits_ne_nil
  · rw [Decimal.ofDigits_digitsOf]

theorem scanExponent_append (e : Option Int) (hstop : EndsNumeral rest) :
    scanExponent (exponentText e ++ rest) = some (e, rest) := by
  cases e with
  | none =>
    exact scanExponent.eq_3 rest (fun s h => (hstop 'e' (by rw [h]; rfl)).2.2.1 rfl)
      fun s h => (hstop 'E' (by rw [h]; rfl)).2.2.2 rfl
  | some e =>
    have hnatural := scanNatural_append e.natAbs fun c hc => (hstop c hc).1
    by_cases he : e < 0
    · have habs : -(e.natAbs : Int) = e := by omega
      simp only [exponentText, he, ↓reduceIte, List.cons_append, scanExponent, scanSigned, hnatural,
        Option.map_some, habs]
    · have habs : (e.natAbs : Int) = e := by omega
      simp only [exponentText, he, ↓reduceIte, List.cons_append, scanExponent, scanSigned, hnatural,
        Option.map_some, habs]

/-- A power of ten starts with its mark. -/
theorem exponentText_stops (e : Option Int) (hstop : EndsNumeral rest) :
    ∀ c ∈ (exponentText e ++ rest).head?, c.isDigit = false ∧ c ≠ '.' := by
  cases e with
  | none => exact fun c hc => ⟨(hstop c hc).1, (hstop c hc).2.1⟩
  | some e =>
    intro c hc
    cases hc
    decide

/-- Digits after the point start with the point. -/
theorem fractionText_stops (hstop : ∀ c ∈ rest.head?, c.isDigit = false ∧ c ≠ '.') :
    ∀ c ∈ ((if run.isEmpty then [] else '.' :: run) ++ rest).head?, c.isDigit = false := by
  cases run with
  | nil => exact fun c hc => (hstop c hc).1
  | cons d run =>
    intro c hc
    cases hc
    decide

/-- **A well-formed numeral is read as it is written**, where none goes on. -/
theorem scanNumeral_text {n : Numeral} (h : n.WellFormed) (hstop : EndsNumeral rest) :
    scanNumeral (n.text ++ rest) = some (n, rest) := by
  have hexponent := exponentText_stops n.exponent hstop
  have hunsigned : ∀ negative, scanUnsigned negative
      (n.whole ++ ((if n.fraction.isEmpty then [] else '.' :: n.fraction) ++
        (exponentText n.exponent ++ rest))) =
      some (⟨negative, n.whole, n.fraction, n.exponent⟩, rest) := by
    intro negative
    rw [scanUnsigned, scanWhole_append h.whole_ne_nil h.whole_digits h.whole_leads
      (fractionText_stops hexponent)]
    simp only [Option.bind_eq_bind, Option.bind_some]
    rw [scanFraction_append h.fraction_digits hexponent]
    simp only [Option.bind_some]
    rw [scanExponent_append n.exponent hstop]
    rfl
  cases hn : n.negative with
  | true =>
    have htext : n.text ++ rest =
        '-' :: (n.whole ++ ((if n.fraction.isEmpty then [] else '.' :: n.fraction) ++
          (exponentText n.exponent ++ rest))) := by
      simp [Numeral.text, hn]
    rw [htext, scanNumeral, hunsigned, ← hn]
  | false =>
    have htext : n.text ++ rest =
        n.whole ++ ((if n.fraction.isEmpty then [] else '.' :: n.fraction) ++
          (exponentText n.exponent ++ rest)) := by
      simp [Numeral.text, hn]
    rw [htext, scanNumeral.eq_2, hunsigned, ← hn]
    -- A digit is no minus sign.
    intro s hs
    obtain ⟨d, whole, hwhole⟩ := List.exists_cons_of_ne_nil h.whole_ne_nil
    rw [hwhole] at hs
    have hd := h.whole_digits d (by rw [hwhole]; exact List.mem_cons_self)
    rw [(List.cons.inj hs).1] at hd
    cases hd

/-- A numeral starts with its sign or with a digit. -/
theorem text_head {n : Numeral} (h : n.WellFormed) :
    ∃ c s, n.text = c :: s ∧ (c = '-' ∨ c.isDigit = true) := by
  obtain ⟨d, whole, hwhole⟩ := List.exists_cons_of_ne_nil h.whole_ne_nil
  have hd := h.whole_digits d (by rw [hwhole]; exact List.mem_cons_self)
  cases hn : n.negative with
  | true =>
    exact ⟨'-', _, by simp only [Numeral.text, hn, if_true, List.cons_append]; rfl, .inl rfl⟩
  | false => exact ⟨d, _, by simp only [Numeral.text, hn, hwhole]; rfl, .inr hd⟩

/-! ## Trees -/

namespace Tree

/-- A tree in the form that is written: numerals are well formed, and strings
and names of fields are bodies of texts. -/
inductive Written : Tree → Prop
  | null : Written .null
  | bool (b : Bool) : Written (.bool b)
  | number {n : Numeral} : n.WellFormed → Written (.number n)
  | string (s : List Char) : Written (.string (quoteBody s))
  | array {items : List Tree} : (∀ t ∈ items, Written t) → Written (.array items)
  | object {fields : List (List Char × Tree)} : (∀ f ∈ fields, ∃ s, f.1 = quoteBody s) →
      (∀ f ∈ fields, Written f.2) → Written (.object fields)

end Tree

/-- The text stands for the tree in front of any other text. It starts with no blank and
with no bracket that closes, and the reader splits it off and leaves what follows, unless
a numeral goes on with that. -/
structure Scans (s : List Char) (t : Tree) : Prop where
  head : ∃ c u, s = c :: u ∧ isSpace c = false ∧ c ≠ ']'
  scan : ∀ fuel rest, s.length ≤ fuel → EndsNumeral rest →
    scanTree fuel (s ++ rest) = some (t, rest)

open DataQuality.Json.Tree (compact compactItems compactFields pretty prettyItems prettyFields
  newline quoted Written)

variable {b front gap back name : List Char} {items : List Tree}
variable {fields : List (List Char × Tree)}

/-! ### Blanks -/

/-- Nothing but blanks of the grammar. -/
def AllSpace (s : List Char) : Prop := ∀ c ∈ s, isSpace c = true

theorem allSpace_nil : AllSpace [] := nofun

theorem allSpace_newline (level : Nat) : AllSpace (newline level) := by
  intro c hc
  obtain rfl | hc := List.mem_cons.mp hc
  · rfl
  · rw [List.eq_of_mem_replicate hc]
    rfl

theorem dropSpaces_cons (h : isSpace c = false) : dropSpaces (c :: s) = c :: s :=
  List.dropWhile_cons_of_neg (by rw [h]; exact Bool.false_ne_true)

theorem dropSpaces_append (hb : AllSpace b) : dropSpaces (b ++ s) = dropSpaces s :=
  List.dropWhile_append_of_pos hb

/-- No numeral goes on with a blank. -/
theorem endsNumeral_append (hb : AllSpace b) (h : EndsNumeral s) : EndsNumeral (b ++ s) := by
  cases b with
  | nil => exact h
  | cons c b =>
    have hc : isSpace c = true := hb c List.mem_cons_self
    have hne : ∀ d, isSpace d = false → c ≠ d := by
      rintro d hd rfl
      rw [hc] at hd
      cases hd
    refine endsNumeral_cons ?_ (hne _ (by decide)) (hne _ (by decide)) (hne _ (by decide))
    rw [isSpace, Bool.or_eq_true, Bool.or_eq_true, Bool.or_eq_true] at hc
    simp only [beq_iff_eq] at hc
    obtain ((rfl | rfl) | rfl) | rfl := hc <;> decide

/-- The marks between the parts of a tree end a numeral, with blanks in front of them. -/
theorem endsNumeral_mark (hback : AllSpace back) (hc : c = ',' ∨ c = ']' ∨ c = '}') :
    EndsNumeral (back ++ c :: rest) := by
  refine endsNumeral_append hback ?_
  obtain rfl | rfl | rfl := hc <;>
    exact endsNumeral_cons (by decide) (by decide) (by decide) (by decide)

/-- Behind blanks the text of a tree comes first. -/
theorem Scans.dropSpaces_front (h : Scans s t) (hfront : AllSpace front) (rest : List Char) :
    dropSpaces (front ++ (s ++ rest)) = s ++ rest := by
  obtain ⟨c, u, rfl, hspace, -⟩ := h.head
  rw [dropSpaces_append hfront]
  exact dropSpaces_cons hspace

/-! ### Trees without parts -/

/-- A text takes at least one step. -/
theorem scans_of_succ (head : ∃ c u, s = c :: u ∧ isSpace c = false ∧ c ≠ ']')
    (h : ∀ fuel rest, s.length ≤ fuel + 1 → EndsNumeral rest →
      scanTree (fuel + 1) (s ++ rest) = some (t, rest)) : Scans s t := by
  refine ⟨head, fun fuel rest hfuel hstop => ?_⟩
  obtain ⟨c, u, rfl, -⟩ := head
  have hpos : 0 < fuel := Nat.lt_of_lt_of_le (Nat.zero_lt_succ _) hfuel
  obtain ⟨fuel, rfl⟩ : ∃ n, fuel = n + 1 := ⟨fuel - 1, by omega⟩
  exact h fuel rest hfuel hstop

theorem scans_null : Scans ['n', 'u', 'l', 'l'] .null :=
  scans_of_succ ⟨_, _, rfl, by decide, by decide⟩ fun fuel rest _ _ => scanTree.eq_2 fuel rest

theorem scans_true : Scans ['t', 'r', 'u', 'e'] (.bool true) :=
  scans_of_succ ⟨_, _, rfl, by decide, by decide⟩ fun fuel rest _ _ => scanTree.eq_3 fuel rest

theorem scans_false : Scans ['f', 'a', 'l', 's', 'e'] (.bool false) :=
  scans_of_succ ⟨_, _, rfl, by decide, by decide⟩ fun fuel rest _ _ => scanTree.eq_4 fuel rest

theorem scanTree_number (h : c = '-' ∨ c.isDigit = true) :
    scanTree (fuel + 1) (c :: s) = (scanNumeral (c :: s)).map fun r => (.number r.1, r.2) := by
  have hne : ∀ d : Char, d ≠ '-' → d.isDigit = false → ∀ rest, c :: s = d :: rest → False := by
    intro d hminus hdigit rest heq
    obtain ⟨rfl, -⟩ := List.cons.inj heq
    rcases h with h | h
    · exact hminus h
    · rw [h] at hdigit
      cases hdigit
  exact scanTree.eq_8 (c :: s) fuel (fun _ => hne 'n' (by decide) (by decide) _)
    (fun _ => hne 't' (by decide) (by decide) _) (fun _ => hne 'f' (by decide) (by decide) _)
    (hne '"' (by decide) (by decide)) (hne '[' (by decide) (by decide))
    (hne '{' (by decide) (by decide))

theorem scans_number {n : Numeral} (h : n.WellFormed) : Scans n.text (.number n) := by
  obtain ⟨c, s, htext, hc⟩ := text_head h
  refine scans_of_succ ⟨c, s, htext, ?_⟩ fun fuel rest _ hstop => ?_
  · obtain rfl | hdigit := hc
    · exact ⟨by decide, by decide⟩
    · refine ⟨?_, fun hc => absurd (hc ▸ hdigit) (by decide)⟩
      rw [isSpace, Bool.or_eq_false_iff, Bool.or_eq_false_iff, Bool.or_eq_false_iff]
      simp only [beq_eq_false_iff_ne]
      refine ⟨⟨⟨?_, ?_⟩, ?_⟩, ?_⟩ <;> exact fun hc => absurd (hc ▸ hdigit) (by decide)
  · have hscan := scanNumeral_text h hstop
    rw [htext, List.cons_append] at hscan ⊢
    rw [scanTree_number hc, hscan]
    rfl

theorem scans_string (s : List Char) : Scans (quoted (quoteBody s)) (.string (quoteBody s)) := by
  refine scans_of_succ ⟨_, _, rfl, by decide, by decide⟩ fun fuel rest _ _ => ?_
  have htext : quoted (quoteBody s) ++ rest = '"' :: (quoteBody s ++ '"' :: rest) := by
    simp [quoted]
  rw [htext, scanTree.eq_5, Text.scanBody_quoteBody]
  rfl

/-! ### Items -/

/-- The text of items: commas between them, and around each of them any blanks. -/
inductive ItemsText : List Char → List Tree → Prop
  | last {front s back : List Char} {t : Tree} : AllSpace front → Scans s t → AllSpace back →
      ItemsText (front ++ (s ++ back)) [t]
  | more {front s back rest : List Char} {t : Tree} {items : List Tree} : AllSpace front →
      Scans s t → AllSpace back → ItemsText rest items →
      ItemsText (front ++ (s ++ (back ++ ',' :: rest))) (t :: items)

theorem ItemsText.head (h : ItemsText s items) (rest : List Char) :
    ∃ c u, dropSpaces (s ++ rest) = c :: u ∧ c ≠ ']' := by
  cases h with
  | last hfront hscans _ =>
    obtain ⟨c, u, hs, -, hc⟩ := hscans.head
    rw [List.append_assoc, List.append_assoc, hscans.dropSpaces_front hfront, hs]
    exact ⟨c, _, rfl, hc⟩
  | more hfront hscans _ _ =>
    obtain ⟨c, u, hs, -, hc⟩ := hscans.head
    rw [List.append_assoc, List.append_assoc, hscans.dropSpaces_front hfront, hs]
    exact ⟨c, _, rfl, hc⟩

/-- **Items are read up to the bracket that closes them.** -/
theorem ItemsText.scanItems_eq (h : ItemsText s items) (hfuel : s.length < fuel) :
    scanItems fuel (dropSpaces (s ++ ']' :: rest)) = some (items, rest) := by
  induction h generalizing fuel with
  | last hfront hscans hback =>
    obtain ⟨fuel, rfl⟩ : ∃ n, fuel = n + 1 := ⟨fuel - 1, by omega⟩
    rw [List.length_append, List.length_append] at hfuel
    rw [List.append_assoc, List.append_assoc, hscans.dropSpaces_front hfront, scanItems.eq_2,
      hscans.scan fuel _ (by omega) (endsNumeral_mark hback (.inr (.inl rfl)))]
    simp only [dropSpaces_append hback, dropSpaces_cons (c := ']') (by decide)]
  | more hfront hscans hback _ ih =>
    obtain ⟨fuel, rfl⟩ : ∃ n, fuel = n + 1 := ⟨fuel - 1, by omega⟩
    rw [List.length_append, List.length_append, List.length_append, List.length_cons] at hfuel
    have hrest := @ih fuel (by omega)
    simp only [List.append_assoc, List.cons_append]
    rw [hscans.dropSpaces_front hfront, scanItems.eq_2,
      hscans.scan fuel _ (by omega) (endsNumeral_mark hback (.inl rfl))]
    simp only [dropSpaces_append hback, dropSpaces_cons (c := ',') (by decide), hrest,
      Option.map_some]

theorem scans_array_nil : Scans ['[', ']'] (.array []) :=
  scans_of_succ ⟨_, _, rfl, by decide, by decide⟩ fun _ _ _ _ => rfl

/-- **An array is split off where its items are.** -/
theorem scans_array (h : ItemsText s items) : Scans ('[' :: s ++ [']']) (.array items) := by
  refine scans_of_succ ⟨_, _, rfl, by decide, by decide⟩ fun fuel rest hfuel _ => ?_
  rw [List.length_append, List.length_cons, List.length_singleton] at hfuel
  have htext : '[' :: s ++ [']'] ++ rest = '[' :: (s ++ ']' :: rest) := by simp
  have hitems : scanItems fuel (dropSpaces (s ++ ']' :: rest)) = some (items, rest) :=
    h.scanItems_eq (by omega)
  obtain ⟨c, u, hhead, hclose⟩ := h.head (']' :: rest)
  rw [htext, scanTree.eq_6]
  rw [hhead] at hitems ⊢
  split
  · rename_i heq
    exact absurd (List.cons.inj heq).1 hclose
  · rw [hitems]
    rfl

/-! ### Fields -/

/-- The text of fields: commas between them, a colon behind each name, and any blanks
before the names and around the trees. -/
inductive FieldsText : List Char → List (List Char × Tree) → Prop
  | last {front gap s back name : List Char} {t : Tree} : AllSpace front → AllSpace gap →
      Scans s t → AllSpace back →
      FieldsText (front ++ (quoted (quoteBody name) ++ ':' :: (gap ++ (s ++ back))))
        [(quoteBody name, t)]
  | more {front gap s back name rest : List Char} {t : Tree} {fields : List (List Char × Tree)} :
      AllSpace front → AllSpace gap → Scans s t → AllSpace back → FieldsText rest fields →
      FieldsText
        (front ++ (quoted (quoteBody name) ++ ':' :: (gap ++ (s ++ (back ++ ',' :: rest)))))
        ((quoteBody name, t) :: fields)

/-- Behind blanks the quote of a name comes first. -/
theorem dropSpaces_quoted (hfront : AllSpace front) :
    dropSpaces (front ++ (quoted b ++ s)) = quoted b ++ s := by
  rw [dropSpaces_append hfront]
  exact dropSpaces_cons (by decide)

theorem FieldsText.head (h : FieldsText s fields) (rest : List Char) :
    ∃ u, dropSpaces (s ++ rest) = '"' :: u := by
  cases h with
  | last hfront _ _ _ =>
    rw [List.append_assoc, List.append_assoc, dropSpaces_quoted hfront]
    exact ⟨_, rfl⟩
  | more hfront _ _ _ _ =>
    rw [List.append_assoc, List.append_assoc, dropSpaces_quoted hfront]
    exact ⟨_, rfl⟩

/-- The fields of an object from the field `f` on, by what follows it. -/
def fieldsAfter (fuel : Nat) (f : List Char × Tree) (rest : List Char) :
    Option (List (List Char × Tree) × List Char) :=
  match dropSpaces rest with
  | ',' :: rest => (scanFields fuel (dropSpaces rest)).map fun r => (f :: r.1, r.2)
  | '}' :: rest => some ([f], rest)
  | _ => none

/-- The name of a field, the colon and the field's tree are split off; what
is left is looked at for a comma or a brace. -/
theorem scanFields_field (hgap : AllSpace gap) (hscans : Scans s t) (hfuel : s.length ≤ fuel)
    (hstop : EndsNumeral rest) :
    scanFields (fuel + 1) (quoted (quoteBody name) ++ ':' :: (gap ++ (s ++ rest))) =
      fieldsAfter fuel (quoteBody name, t) rest := by
  have htext : quoted (quoteBody name) ++ ':' :: (gap ++ (s ++ rest)) =
      '"' :: (quoteBody name ++ '"' :: ':' :: (gap ++ (s ++ rest))) := by
    simp [quoted]
  rw [htext, scanFields.eq_2, Text.scanBody_quoteBody]
  simp only [dropSpaces_cons (c := ':') (by decide), hscans.dropSpaces_front hgap,
    hscans.scan fuel rest hfuel hstop]
  rfl

/-- **Fields are read up to the brace that closes them.** -/
theorem FieldsText.scanFields_eq (h : FieldsText s fields) (hfuel : s.length < fuel) :
    scanFields fuel (dropSpaces (s ++ '}' :: rest)) = some (fields, rest) := by
  induction h generalizing fuel with
  | last hfront hgap hscans hback =>
    obtain ⟨fuel, rfl⟩ : ∃ n, fuel = n + 1 := ⟨fuel - 1, by omega⟩
    simp only [List.length_append, List.length_cons] at hfuel
    simp only [List.append_assoc, List.cons_append]
    rw [dropSpaces_quoted hfront, scanFields_field hgap hscans (by omega)
      (endsNumeral_mark hback (.inr (.inr rfl))), fieldsAfter]
    simp only [dropSpaces_append hback, dropSpaces_cons (c := '}') (by decide)]
  | more hfront hgap hscans hback _ ih =>
    obtain ⟨fuel, rfl⟩ : ∃ n, fuel = n + 1 := ⟨fuel - 1, by omega⟩
    simp only [List.length_append, List.length_cons] at hfuel
    have hrest := @ih fuel (by omega)
    simp only [List.append_assoc, List.cons_append]
    rw [dropSpaces_quoted hfront, scanFields_field hgap hscans (by omega)
      (endsNumeral_mark hback (.inl rfl)), fieldsAfter]
    simp only [dropSpaces_append hback, dropSpaces_cons (c := ',') (by decide), hrest,
      Option.map_some]

theorem scans_object_nil : Scans ['{', '}'] (.object []) :=
  scans_of_succ ⟨_, _, rfl, by decide, by decide⟩ fun _ _ _ _ => rfl

/-- **An object is split off where its fields are.** -/
theorem scans_object (h : FieldsText s fields) : Scans ('{' :: s ++ ['}']) (.object fields) := by
  refine scans_of_succ ⟨_, _, rfl, by decide, by decide⟩ fun fuel rest hfuel _ => ?_
  rw [List.length_append, List.length_cons, List.length_singleton] at hfuel
  have htext : '{' :: s ++ ['}'] ++ rest = '{' :: (s ++ '}' :: rest) := by simp
  have hfields : scanFields fuel (dropSpaces (s ++ '}' :: rest)) = some (fields, rest) :=
    h.scanFields_eq (by omega)
  obtain ⟨u, hhead⟩ := h.head ('}' :: rest)
  rw [htext, scanTree.eq_7]
  rw [hhead] at hfields ⊢
  split
  · rename_i heq
    exact absurd (List.cons.inj heq).1 (by decide)
  · rw [hfields]
    rfl

/-! ### The text on one line -/

theorem itemsText_compactItems (h : ∀ u ∈ t :: items, Scans u.compact u) :
    ItemsText (compactItems (t :: items)) (t :: items) := by
  induction items generalizing t with
  | nil =>
    have htext : compactItems [t] = [] ++ (t.compact ++ []) := by simp [compactItems]
    rw [htext]
    exact .last allSpace_nil (h t List.mem_cons_self) allSpace_nil
  | cons u items ih =>
    obtain ⟨ht, hrest⟩ := List.forall_mem_cons.mp h
    exact .more allSpace_nil ht allSpace_nil (ih hrest)

theorem fieldsText_compactFields {f : List Char × Tree}
    (hnames : ∀ g ∈ f :: fields, ∃ s, g.1 = quoteBody s)
    (h : ∀ g ∈ f :: fields, Scans g.2.compact g.2) :
    FieldsText (compactFields (f :: fields)) (f :: fields) := by
  induction fields generalizing f with
  | nil =>
    obtain ⟨_, t⟩ := f
    obtain ⟨name, rfl⟩ := hnames _ List.mem_cons_self
    have htext : compactFields [(quoteBody name, t)] =
        [] ++ (quoted (quoteBody name) ++ ':' :: ([] ++ (t.compact ++ []))) := by
      simp [compactFields]
    rw [htext]
    exact .last allSpace_nil allSpace_nil (h _ List.mem_cons_self) allSpace_nil
  | cons g fields ih =>
    obtain ⟨_, t⟩ := f
    obtain ⟨⟨name, rfl⟩, hothers⟩ := List.forall_mem_cons.mp hnames
    obtain ⟨ht, hrest⟩ := List.forall_mem_cons.mp h
    have htext : compactFields ((quoteBody name, t) :: g :: fields) =
        [] ++ (quoted (quoteBody name) ++
          ':' :: ([] ++ (t.compact ++ ([] ++ ',' :: compactFields (g :: fields))))) := by
      simp [compactFields]
    rw [htext]
    exact .more allSpace_nil allSpace_nil ht allSpace_nil (ih hothers hrest)

/-- **A written tree is split off its text on one line.** -/
theorem Tree.Written.scans_compact (h : t.Written) : Scans t.compact t := by
  induction h with
  | null => exact scans_null
  | bool b =>
    cases b with
    | true => exact scans_true
    | false => exact scans_false
  | number h => exact scans_number h
  | string s => exact scans_string s
  | @array items _ ih =>
    cases items with
    | nil => exact scans_array_nil
    | cons t items => exact scans_array (itemsText_compactItems ih)
  | @object fields hnames _ ih =>
    cases fields with
    | nil => exact scans_object_nil
    | cons f fields => exact scans_object (fieldsText_compactFields hnames ih)

/-! ### The text on indented lines -/

theorem itemsText_prettyItems {level : Nat} (hback : AllSpace back)
    (h : ∀ u ∈ t :: items, Scans (u.pretty level) u) :
    ItemsText (prettyItems level (t :: items) ++ back) (t :: items) := by
  induction items generalizing t with
  | nil =>
    rw [prettyItems, List.append_assoc]
    exact .last (allSpace_newline level) (h t List.mem_cons_self) hback
  | cons u items ih =>
    obtain ⟨ht, hrest⟩ := List.forall_mem_cons.mp h
    rw [prettyItems, List.append_assoc, List.append_assoc]
    exact .more (allSpace_newline level) ht allSpace_nil (ih hrest)

theorem fieldsText_prettyFields {level : Nat} {f : List Char × Tree} (hback : AllSpace back)
    (hnames : ∀ g ∈ f :: fields, ∃ s, g.1 = quoteBody s)
    (h : ∀ g ∈ f :: fields, Scans (g.2.pretty level) g.2) :
    FieldsText (prettyFields level (f :: fields) ++ back) (f :: fields) := by
  have hgap : AllSpace [' '] := fun c hc => by rw [List.mem_singleton.mp hc]; rfl
  induction fields generalizing f with
  | nil =>
    obtain ⟨_, t⟩ := f
    obtain ⟨name, rfl⟩ := hnames _ List.mem_cons_self
    have htext : prettyFields level [(quoteBody name, t)] ++ back =
        newline level ++
          (quoted (quoteBody name) ++ ':' :: ([' '] ++ (t.pretty level ++ back))) := by
      simp [prettyFields]
    rw [htext]
    exact .last (allSpace_newline level) hgap (h _ List.mem_cons_self) hback
  | cons g fields ih =>
    obtain ⟨_, t⟩ := f
    obtain ⟨⟨name, rfl⟩, hothers⟩ := List.forall_mem_cons.mp hnames
    obtain ⟨ht, hrest⟩ := List.forall_mem_cons.mp h
    have htext : prettyFields level ((quoteBody name, t) :: g :: fields) ++ back =
        newline level ++ (quoted (quoteBody name) ++ ':' :: ([' '] ++
          (t.pretty level ++ ([] ++ ',' :: (prettyFields level (g :: fields) ++ back))))) := by
      simp [prettyFields]
    rw [htext]
    exact .more (allSpace_newline level) hgap ht allSpace_nil (ih hothers hrest)

/-- **A written tree is split off its text on indented lines**, at any level. -/
theorem Tree.Written.scans_pretty (h : t.Written) (level : Nat) : Scans (t.pretty level) t := by
  induction h generalizing level with
  | null => exact scans_null
  | bool b =>
    cases b with
    | true => exact scans_true
    | false => exact scans_false
  | number h => exact scans_number h
  | string s => exact scans_string s
  | @array items _ ih =>
    cases items with
    | nil => exact scans_array_nil
    | cons t items =>
      exact scans_array (itemsText_prettyItems (allSpace_newline level) fun u hu => ih u hu _)
  | @object fields hnames _ ih =>
    cases fields with
    | nil => exact scans_object_nil
    | cons f fields =>
      exact scans_object
        (fieldsText_prettyFields (allSpace_newline level) hnames fun g hg => ih g hg _)

/-! ### Whole texts -/

theorem Scans.ofText? (h : Scans s t) : Tree.ofText? s = some t := by
  have hdrop : dropSpaces s = s := by
    obtain ⟨c, u, rfl, hspace, -⟩ := h.head
    exact dropSpaces_cons hspace
  have hscan := h.scan (2 * s.length + 2) [] (by omega) endsNumeral_nil
  rw [List.append_nil] at hscan
  rw [Tree.ofText?, hdrop, hscan]
  rfl

/-- **The text of a written tree is read as the tree.** -/
theorem Tree.Written.ofText?_compact (h : t.Written) : Tree.ofText? t.compact = some t :=
  h.scans_compact.ofText?

/-- **So is its text on indented lines.** -/
theorem Tree.Written.ofText?_pretty (h : t.Written) (level : Nat) :
    Tree.ofText? (t.pretty level) = some t :=
  (h.scans_pretty level).ofText?

end Json

end DataQuality
