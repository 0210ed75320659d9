import DataQuality.Text.Truncated
import Mathlib.Data.List.Infix
/-!
# Truncated text — what a cut keeps

A limit counts bytes, and a text is made of characters of one to four bytes. Going
over the characters from the front, a cut keeps the longest start that fits the limit
(`IsLongestFit`). Going over the bytes, it is found from the other end: from the limit
one steps back, byte by byte, to one where the text may be cut (`boundary?`), and takes
what stands before it (`before?`). Both steps could fail, the one for there is nothing
before the first byte, the other inside a character; they never do, and both ways lead
to one text (`truncate_keeps_longest_fit`).
-/

namespace DataQuality

namespace Text

variable {limit n : Nat} {s t : List Char}

/-! ## Bytes -/

/-- The bytes of a text are those of its characters. -/
theorem utf8ByteSize_ofList (s : List Char) : (String.ofList s).utf8ByteSize = byteLength s := by
  induction s with
  | nil => rfl
  | cons c s ih =>
    rw [String.ofList_cons, String.utf8ByteSize_append, String.utf8ByteSize_singleton, ih,
      byteLength]

theorem byteLength_toList (s : String) : byteLength s.toList = s.utf8ByteSize := by
  rw [← utf8ByteSize_ofList, String.ofList_toList]

/-! ## What is kept -/

theorem starts_takeBytes (limit : Nat) (s : List Char) : takeBytes limit s <+: s := by
  induction s generalizing limit with
  | nil => exact List.nil_prefix
  | cons c s ih =>
    rw [takeBytes]
    split
    · exact List.cons_prefix_cons.mpr ⟨rfl, ih _⟩
    · exact List.nil_prefix

/-- **Every start that fits is kept.** -/
theorem prefix_takeBytes (h : s <+: t) (hfits : byteLength s ≤ limit) :
    s <+: takeBytes limit t := by
  induction t generalizing s limit with
  | nil =>
    rw [List.prefix_nil.mp h]
    exact List.nil_prefix
  | cons d t ih =>
    cases s with
    | nil => exact List.nil_prefix
    | cons c s =>
      obtain ⟨rfl, htail⟩ := List.cons_prefix_cons.mp h
      rw [byteLength] at hfits
      rw [takeBytes, if_pos (by omega)]
      exact List.cons_prefix_cons.mpr ⟨rfl, ih htail (by omega)⟩

/-- Nothing is left out just when all of it fits. -/
theorem takeBytes_eq_self_iff : takeBytes limit s = s ↔ byteLength s ≤ limit := by
  constructor
  · intro h
    rw [← h]
    exact byteLength_takeBytes_le limit s
  · intro h
    exact (starts_takeBytes limit s).eq_of_length_le
      (prefix_takeBytes List.prefix_rfl h).length_le

/-- A start of a text that fits a limit, and that goes on from every other such start. -/
structure IsLongestFit (limit : Nat) (s kept : String) : Prop where
  leads : ∃ left, s = kept ++ left
  fits : kept.utf8ByteSize ≤ limit
  longest : ∀ t, (∃ left, s = t ++ left) → t.utf8ByteSize ≤ limit → ∃ more, kept = t ++ more

/-- The starts of a text are those of its characters. -/
theorem prefix_toList_iff {s t : String} : t.toList <+: s.toList ↔ ∃ left, s = t ++ left := by
  constructor
  · rintro ⟨left, h⟩
    refine ⟨String.ofList left, ?_⟩
    rw [← String.toList_inj, String.toList_append, String.toList_ofList, h]
  · rintro ⟨left, rfl⟩
    exact ⟨left.toList, String.toList_append.symm⟩

/-- The part of a text that is kept. -/
def kept (limit : Nat) (s : String) : String := String.ofList (takeBytes limit s.toList)

theorem isLongestFit_kept (limit : Nat) (s : String) : IsLongestFit limit s (kept limit s) where
  leads := prefix_toList_iff.mp (by
    rw [kept, String.toList_ofList]
    exact starts_takeBytes limit s.toList)
  fits := by
    rw [kept, utf8ByteSize_ofList]
    exact byteLength_takeBytes_le limit s.toList
  longest t ht hfits := prefix_toList_iff.mp (by
    rw [kept, String.toList_ofList]
    exact prefix_takeBytes (prefix_toList_iff.mpr ht) (by rwa [byteLength_toList]))

theorem kept_eq_self_iff {s : String} : kept limit s = s ↔ s.utf8ByteSize ≤ limit := by
  rw [← byteLength_toList, ← takeBytes_eq_self_iff, ← String.toList_inj, kept,
    String.toList_ofList]

theorem truncate_eq (limit : Nat) (s : String) :
    truncate limit s = if s.utf8ByteSize ≤ limit then s else kept limit s ++ truncationMark := by
  rw [truncate, byteLength_toList]
  rfl

/-! ## The way back from the limit -/

/-- The last byte up to the one at `n` where the text may be cut: one where a character
starts, or the end. There is none before the first byte. -/
def boundary? (s : String) : Nat → Option Nat
  | 0 => if String.Pos.Raw.isValid s ⟨0⟩ then some 0 else none
  | n + 1 => if String.Pos.Raw.isValid s ⟨n + 1⟩ then some (n + 1) else boundary? s n

/-- The text before the byte at `n`, unless that is inside a character or past the end. -/
def before? (s : String) (n : Nat) : Option String :=
  if h : String.Pos.Raw.IsValid s ⟨n⟩ then some (s.sliceTo (s.pos ⟨n⟩ h)).copy else none

/-- A cut that is looked for from the limit on, back over the bytes. -/
def truncateBytes? (limit : Nat) (s : String) : Option String :=
  if s.utf8ByteSize ≤ limit then some s
  else do
    let n ← boundary? s limit
    let start ← before? s n
    return start ++ truncationMark

/-- A text may be cut at a byte just when as many bytes can be kept. -/
theorem isValid_iff {s : String} :
    String.Pos.Raw.IsValid s ⟨n⟩ ↔ (kept n s).utf8ByteSize = n := by
  have hkept := isLongestFit_kept n s
  rw [String.Pos.Raw.isValid_iff_exists_append]
  constructor
  · rintro ⟨start, left, hs, hn⟩
    have hn : n = start.utf8ByteSize := congrArg String.Pos.Raw.byteIdx hn
    obtain ⟨more, hmore⟩ := hkept.longest start ⟨left, hs⟩ hn.ge
    have hle := hkept.fits
    rw [hmore, String.utf8ByteSize_append] at hle ⊢
    omega
  · intro h
    obtain ⟨left, hs⟩ := hkept.leads
    exact ⟨kept n s, left, hs, String.Pos.Raw.ext h.symm⟩

/-- **From every byte the way back ends**, where the characters that are kept do. -/
theorem boundary?_eq (s : String) (n : Nat) : boundary? s n = some (kept n s).utf8ByteSize := by
  induction n with
  | zero =>
    have hzero : (kept 0 s).utf8ByteSize = 0 := Nat.le_zero.mp (isLongestFit_kept 0 s).fits
    rw [boundary?, if_pos (String.Pos.Raw.isValid_eq_true_iff.mpr (isValid_iff.mpr hzero)), hzero]
  | succ n ih =>
    rw [boundary?]
    split
    · rename_i hvalid
      rw [isValid_iff.mp (String.Pos.Raw.isValid_eq_true_iff.mp hvalid)]
    · rename_i hvalid
      -- What is kept has a byte to spare, so that it fits one byte less.
      have hne : (kept (n + 1) s).utf8ByteSize ≠ n + 1 := fun h =>
        hvalid (String.Pos.Raw.isValid_eq_true_iff.mpr (isValid_iff.mpr h))
      have hnow := isLongestFit_kept (n + 1) s
      have hless := isLongestFit_kept n s
      have hfits := hnow.fits
      obtain ⟨more, hmore⟩ := hless.longest _ hnow.leads (by omega)
      obtain ⟨more', hmore'⟩ := hnow.longest _ hless.leads (Nat.le_succ_of_le hless.fits)
      have hsize := congrArg String.utf8ByteSize hmore
      have hsize' := congrArg String.utf8ByteSize hmore'
      rw [String.utf8ByteSize_append] at hsize hsize'
      rw [ih]
      congr 1
      omega

/-- What stands before that byte are the characters that are kept. -/
theorem before?_kept (limit : Nat) (s : String) :
    before? s (kept limit s).utf8ByteSize = some (kept limit s) := by
  obtain ⟨left, hs⟩ := (isLongestFit_kept limit s).leads
  have hvalid : String.Pos.Raw.IsValid s ⟨(kept limit s).utf8ByteSize⟩ :=
    String.Pos.Raw.isValid_iff_exists_append.mpr ⟨_, left, hs, rfl⟩
  rw [before?, dif_pos hvalid, Option.some_inj, String.copy_sliceTo_eq_iff_exists_splits]
  exact ⟨left, hs, rfl⟩

/-- **Both ways lead to one text**, and the way over the bytes leads to one. -/
theorem truncateBytes?_eq (limit : Nat) (s : String) :
    truncateBytes? limit s = some (truncate limit s) := by
  rw [truncateBytes?, truncate_eq]
  split
  · rfl
  · rw [boundary?_eq, Option.bind_eq_bind, Option.bind_some, before?_kept]
    rfl

/-- **A cut keeps the longest start that fits, and only whole characters.** There is one
longest start of a text among those that fit a limit of bytes, and it is all of the text
just when the text fits. What fits is left as it is; of all else that start is kept, with
a mark behind it. So a text comes out as it went in only if it fits, or if it ends in the
mark itself and is cut right there. Looked for over the bytes, back from the limit, the
cut comes to an end at a byte where a character starts, and it is the same cut. -/
theorem truncate_keeps_longest_fit (limit : Nat) (s : String) :
    ∃ kept, IsLongestFit limit s kept ∧ (kept = s ↔ s.utf8ByteSize ≤ limit) ∧
      truncate limit s = (if s.utf8ByteSize ≤ limit then s else kept ++ "...(truncated)") ∧
      (truncate limit s = s ↔ s.utf8ByteSize ≤ limit ∨ s = kept ++ "...(truncated)") ∧
      truncateBytes? limit s = some (truncate limit s) := by
  refine ⟨kept limit s, isLongestFit_kept limit s, kept_eq_self_iff, truncate_eq limit s, ?_,
    truncateBytes?_eq limit s⟩
  rw [truncate_eq]
  split
  · rename_i hfits
    exact iff_of_true rfl (.inl hfits)
  · rename_i hlong
    exact eq_comm.trans (or_iff_right hlong).symm

example : truncate 3 "ééé" = "é...(truncated)" := by decide

end Text

end DataQuality
