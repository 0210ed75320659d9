import DataQuality.Text.Quoted
/-!
# Scanning — what is written is split off and read back

A run is split off where it ends (`takeWhile_dropWhile_append`). Inside
quotes a character is written in one of three forms (`escapeChar_cases`): as
itself, as a backslash and a letter, or by its code point. Each form is one
step of the scanner and one step of the reader, so the body of a text is
scanned to its closing quote (`scanBody_quoteBody`) and stands for the text it
was made of (`unquoteBody?_quoteBody`).
-/

namespace DataQuality

namespace Text

variable {c : Char} {run rest : List Char}

/-- A run is split off where it ends. -/
theorem takeWhile_dropWhile_append {p : Char → Bool} (h : ∀ d ∈ run, p d = true)
    (hstop : ∀ c ∈ rest.head?, p c = false) :
    (run ++ rest).takeWhile p = run ∧ (run ++ rest).dropWhile p = rest := by
  rw [List.takeWhile_append_of_pos h, List.dropWhile_append_of_pos h]
  cases rest with
  | nil => exact ⟨List.append_nil run, rfl⟩
  | cons c rest =>
    have hc : p c = false := hstop c rfl
    rw [List.takeWhile_cons, List.dropWhile_cons, hc]
    exact ⟨List.append_nil run, rfl⟩

/-! ## The forms of a character -/

/-- Two hexadecimal digits of a control character are read back. -/
theorem hexValue4?_control : ∀ n < 0x20,
    hexValue4? '0' '0' (hexDigit (n / 16)) (hexDigit (n % 16)) = some n := by decide

/-- **The three forms of a character inside quotes.** -/
theorem escapeChar_cases (c : Char) :
    (escapeChar c = [c] ∧ c ≠ '"' ∧ c ≠ '\\' ∧ 0x20 ≤ c.toNat) ∨
      (∃ letter, escapeChar c = ['\\', letter] ∧ unescape? letter = some c) ∨
      (∃ x y, escapeChar c = ['\\', 'u', '0', '0', x, y] ∧
        hexValue4? '0' '0' x y = some c.toNat ∧ c.toNat < 0x20) := by
  have hof : ∀ n, c.toNat = n → c = Char.ofNat n := fun n h => h ▸ (Char.ofNat_toNat c).symm
  rw [escapeChar]
  split
  · rename_i h
    subst h
    exact Or.inr (Or.inl ⟨'"', rfl, rfl⟩)
  · rename_i hquote
    split
    · rename_i h
      subst h
      exact Or.inr (Or.inl ⟨'\\', rfl, rfl⟩)
    · rename_i hslash
      split
      · rename_i h
        exact Or.inl ⟨rfl, hquote, hslash, h⟩
      · rename_i hcontrol
        refine Or.inr ?_
        split
        · rename_i h
          exact Or.inl ⟨'b', rfl, hof _ h ▸ rfl⟩
        split
        · rename_i h
          exact Or.inl ⟨'f', rfl, hof _ h ▸ rfl⟩
        split
        · rename_i h
          exact Or.inl ⟨'n', rfl, h ▸ rfl⟩
        split
        · rename_i h
          exact Or.inl ⟨'r', rfl, h ▸ rfl⟩
        split
        · rename_i h
          exact Or.inl ⟨'t', rfl, h ▸ rfl⟩
        · have hlt : c.toNat < 0x20 := Nat.lt_of_not_le hcontrol
          exact Or.inr ⟨_, _, rfl, hexValue4?_control _ hlt, hlt⟩

/-! ## Scanning -/

theorem scanBody_plain (hquote : c ≠ '"') (hslash : c ≠ '\\') (hprintable : 0x20 ≤ c.toNat) :
    scanBody (c :: rest) = (scanBody rest).map fun r => (c :: r.1, r.2) := by
  rw [scanBody.eq_5 c rest hquote (fun _ _ _ _ _ h _ => hslash h) (fun _ _ h _ => hslash h),
    if_neg (Nat.not_lt.mpr hprintable)]

theorem scanBody_escaped (h : (unescape? c).isSome) :
    scanBody ('\\' :: c :: rest) = (scanBody rest).map fun r => ('\\' :: c :: r.1, r.2) := by
  have hu : c ≠ 'u' := by
    rintro rfl
    cases h
  rw [scanBody.eq_4 c rest (fun _ _ _ _ _ h _ => hu h), if_pos h]

/-- **A written character is scanned as one piece.** -/
theorem scanBody_escapeChar (c : Char) (rest : List Char) :
    scanBody (escapeChar c ++ rest) =
      (scanBody rest).map fun r => (escapeChar c ++ r.1, r.2) := by
  rcases escapeChar_cases c with ⟨h, hquote, hslash, hprintable⟩ | ⟨letter, h, hletter⟩ |
    ⟨x, y, h, hvalue, -⟩
  · rw [h]
    exact scanBody_plain hquote hslash hprintable
  · rw [h]
    exact scanBody_escaped (by rw [hletter]; rfl)
  · rw [h]
    simp [scanBody, hvalue]

/-- **The body of a text is scanned to its closing quote.** -/
theorem scanBody_quoteBody (s rest : List Char) :
    scanBody (quoteBody s ++ '"' :: rest) = some (quoteBody s, rest) := by
  induction s with
  | nil => rfl
  | cons c s ih =>
    have hcons : quoteBody (c :: s) = escapeChar c ++ quoteBody s := rfl
    rw [hcons, List.append_assoc, scanBody_escapeChar, ih]
    rfl

/-! ## Reading -/

theorem unquoteBody?_plain (hslash : c ≠ '\\') :
    unquoteBody? (c :: rest) = (unquoteBody? rest).map (c :: ·) :=
  unquoteBody?.eq_4 c rest (fun _ _ _ _ _ h _ => hslash h) (fun _ _ h _ => hslash h)

theorem unquoteBody?_escaped {letter : Char} (h : unescape? letter = some c) :
    unquoteBody? ('\\' :: letter :: rest) = (unquoteBody? rest).map (c :: ·) := by
  have hu : letter ≠ 'u' := by
    rintro rfl
    cases h
  rw [unquoteBody?.eq_3 letter rest (fun _ _ _ _ _ h _ => hu h), h]

theorem unquoteBody?_control {w x y z : Char} (h : hexValue4? w x y z = some c.toNat)
    (hlt : c.toNat < 0x20) :
    unquoteBody? ('\\' :: 'u' :: w :: x :: y :: z :: rest) =
      (unquoteBody? rest).map (c :: ·) := by
  have hlow : isLowSurrogate c.toNat = false := by
    rw [isLowSurrogate, Bool.and_eq_false_iff, decide_eq_false_iff_not]
    omega
  have hhigh : isHighSurrogate c.toNat = false := by
    rw [isHighSurrogate, Bool.and_eq_false_iff, decide_eq_false_iff_not]
    omega
  rw [unquoteBody?, h]
  simp [hlow, hhigh]

/-- **A written character is read as itself.** -/
theorem unquoteBody?_escapeChar (c : Char) (rest : List Char) :
    unquoteBody? (escapeChar c ++ rest) = (unquoteBody? rest).map (c :: ·) := by
  rcases escapeChar_cases c with ⟨h, -, hslash, -⟩ | ⟨letter, h, hletter⟩ | ⟨x, y, h, hvalue, hlt⟩
  · rw [h]
    exact unquoteBody?_plain hslash
  · rw [h]
    exact unquoteBody?_escaped hletter
  · rw [h]
    exact unquoteBody?_control hvalue hlt

/-- **The body of a text stands for the text.** -/
theorem unquoteBody?_quoteBody (s : List Char) : unquoteBody? (quoteBody s) = some s := by
  induction s with
  | nil => rfl
  | cons c s ih =>
    have hcons : quoteBody (c :: s) = escapeChar c ++ quoteBody s := rfl
    rw [hcons, unquoteBody?_escapeChar, ih]
    rfl

end Text

end DataQuality
