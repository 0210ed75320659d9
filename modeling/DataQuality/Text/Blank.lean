/-!
# Blank characters — the Unicode property White_Space

The property has 25 code points in ten ranges. Names are judged empty,
call texts are split and date-times are read with this class, which is
wider than core's four ASCII characters.
-/

namespace DataQuality

namespace Text

/-- The closed ranges of White_Space, ascending and apart. -/
def blankRanges : List (Nat × Nat) :=
  [(0x09, 0x0D), (0x20, 0x20), (0x85, 0x85), (0xA0, 0xA0), (0x1680, 0x1680), (0x2000, 0x200A),
   (0x2028, 0x2029), (0x202F, 0x202F), (0x205F, 0x205F), (0x3000, 0x3000)]

/-- Whether a code point lies in one of the closed ranges. -/
def inRanges (ranges : List (Nat × Nat)) (n : Nat) : Bool :=
  ranges.any fun r => r.1 ≤ n && n ≤ r.2

/-- Whether a character is white space. -/
def isBlank (c : Char) : Bool := inRanges blankRanges c.toNat

/-- The text without its leading blanks. -/
def dropBlanks (s : List Char) : List Char := s.dropWhile isBlank

/-- The text without its leading and trailing blanks. -/
def trim (s : List Char) : List Char := (dropBlanks (dropBlanks s).reverse).reverse

/-- A text of blanks only; it may be empty. -/
def AllBlank (s : List Char) : Prop := ∀ c ∈ s, isBlank c = true

instance (s : List Char) : Decidable (AllBlank s) :=
  List.decidableBAll (isBlank · = true) s

@[simp] theorem allBlank_nil : AllBlank [] := nofun

@[simp] theorem allBlank_cons {c : Char} {s : List Char} :
    AllBlank (c :: s) ↔ isBlank c = true ∧ AllBlank s := List.forall_mem_cons

theorem dropBlanks_append {b s : List Char} (h : AllBlank b) :
    dropBlanks (b ++ s) = dropBlanks s := List.dropWhile_append_of_pos h

theorem dropBlanks_cons {c : Char} {s : List Char} (h : isBlank c = false) :
    dropBlanks (c :: s) = c :: s := List.dropWhile_cons_of_neg (by rw [h]; exact Bool.false_ne_true)

/-- What is dropped of a text are blanks. -/
theorem exists_append_dropBlanks (s : List Char) : ∃ b, AllBlank b ∧ s = b ++ dropBlanks s :=
  ⟨s.takeWhile isBlank, List.all_eq_true.mp List.all_takeWhile,
    List.takeWhile_append_dropWhile.symm⟩

theorem dropBlanks_of_allBlank {b : List Char} (h : AllBlank b) : dropBlanks b = [] := by
  have hdrop : dropBlanks (b ++ []) = dropBlanks [] := dropBlanks_append h
  rwa [List.append_nil] at hdrop

theorem dropBlanks_of_no_blank {s : List Char} (h : ∀ c ∈ s, isBlank c = false) :
    dropBlanks s = s := by
  cases s with
  | nil => rfl
  | cons c rest => exact dropBlanks_cons (h c List.mem_cons_self)

/-- Blanks around a text are no part of it. -/
theorem trim_append {front s back : List Char} (hfront : AllBlank front) (hback : AllBlank back) :
    trim (front ++ s ++ back) = trim s := by
  have hreverse : AllBlank back.reverse := fun c hc => hback c (List.mem_reverse.mp hc)
  rw [List.append_assoc, trim, trim, dropBlanks_append hfront]
  by_cases hs : dropBlanks s = []
  · have hback : dropBlanks (s ++ back) = [] := by
      rw [dropBlanks, List.dropWhile_append, ← dropBlanks, hs]
      exact dropBlanks_of_allBlank hback
    rw [hs, hback]
  · have hkept : dropBlanks (s ++ back) = dropBlanks s ++ back := by
      rw [dropBlanks, List.dropWhile_append, ← dropBlanks, if_neg (by simpa using hs)]
    rw [hkept, List.reverse_append, dropBlanks_append hreverse]

/-- A text without blanks is left as it is. -/
theorem trim_of_no_blank {s : List Char} (h : ∀ c ∈ s, isBlank c = false) : trim s = s := by
  rw [trim, dropBlanks_of_no_blank h,
    dropBlanks_of_no_blank fun c hc => h c (List.mem_reverse.mp hc), List.reverse_reverse]

/-- No letter, digit or underscore is blank, nor is any other character
between the exclamation mark and the tilde. -/
theorem isBlank_eq_false {c : Char} (h : '!' ≤ c ∧ c ≤ '~') : isBlank c = false := by
  obtain ⟨hlow, hhigh⟩ := h
  rw [Char.le_def, UInt32.le_iff_toNat_le] at hlow hhigh
  have hlow : 0x21 ≤ c.toNat := hlow
  have hhigh : c.toNat ≤ 0x7E := hhigh
  simp only [isBlank, inRanges, blankRanges, List.any_cons, List.any_nil, Bool.or_false,
    Bool.or_eq_false_iff, Bool.and_eq_false_iff, decide_eq_false_iff_not]
  omega

/-- No digit is blank. -/
theorem isBlank_eq_false_of_isDigit {c : Char} (h : c.isDigit = true) : isBlank c = false := by
  rw [Char.isDigit, Bool.and_eq_true, decide_eq_true_eq, decide_eq_true_eq] at h
  refine isBlank_eq_false ⟨?_, ?_⟩
  · exact Char.le_trans (by decide) h.1
  · exact Char.le_trans h.2 (by decide)

end Text

end DataQuality
