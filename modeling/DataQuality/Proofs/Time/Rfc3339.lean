import DataQuality.Proofs.Text.Scanning
import DataQuality.Proofs.Time.Calendar
import DataQuality.Time.Rfc3339
/-!
# Date-times as text — what is written is read back

The written form of an instant is one of the many that are read: each of its
parts is taken off the text by the scan that reads it (`Reads`), and the parts
name the instant they were written for (`Instant.ofText?_text`). A year beyond
four digits has a sign, so that all its digits are taken, and a leap second is
second 60 in both directions.
-/

namespace DataQuality

namespace Text

namespace Scan

variable {α β : Type} {x : Scan α} {f : α → Scan β} {a : α} {b : β} {s s' rest run : List Char}

/-- The scan takes exactly the text `s` in front of `rest`, and makes `a` of
it. -/
def Reads (x : Scan α) (s : List Char) (a : α) (rest : List Char) : Prop :=
  StateT.run x (s ++ rest) = some (a, rest)

theorem reads_pure (a : α) (rest : List Char) : Reads (pure a) [] a rest := rfl

/-- **One text after another is read by one scan after another.** -/
theorem Reads.bind (hx : Reads x s a (s' ++ rest)) (hf : Reads (f a) s' b rest) :
    Reads (x >>= f) (s ++ s') b rest := by
  rw [Reads, List.append_assoc, StateT.run_bind, hx]
  exact hf

/-- A scan that takes nothing comes before what is read. -/
theorem Reads.after (hx : Reads x [] a (s ++ rest)) (hf : Reads (f a) s b rest) :
    Reads (x >>= f) s b rest :=
  hx.bind hf

/-- What is read is made into something else. -/
theorem Reads.map {g : α → β} (hx : Reads x s a rest) :
    Reads (x >>= fun a => pure (g a)) s (g a) rest := by
  have h : Reads (x >>= fun a => pure (g a)) (s ++ []) (g a) rest :=
    Reads.bind hx (reads_pure (g a) rest)
  rwa [List.append_nil] at h

/-- What a scan makes of a text that it reads to the end. -/
theorem Reads.all? (hx : Reads x s a []) : x.all? s = some a := by
  rw [Reads, List.append_nil] at hx
  rw [Scan.all?, hx]

theorem reads_satisfy {p : Char → Bool} {c : Char} (h : p c = true) :
    Reads (satisfy p) [c] c rest :=
  if_pos h

theorem reads_char (c : Char) (rest : List Char) : Reads (char c) [c] () rest :=
  Reads.map (reads_satisfy (beq_self_eq_true c))

/-- What holds of a character holds of the head of a text that starts with it. -/
theorem forall_head? {P : Char → Prop} {c : Char} (h : P c) : ∀ d ∈ (c :: rest).head?, P d :=
  fun _ hd => Option.some.inj hd ▸ h

/-- No blank is passed over where there is none. -/
theorem reads_blanks (h : ∀ c ∈ rest.head?, isBlank c = false) : Reads blanks [] () rest := by
  cases rest with
  | nil => rfl
  | cons c rest =>
    have hdrop : dropBlanks (c :: rest) = c :: rest := dropBlanks_cons (h c rfl)
    exact congrArg (fun s => some ((), s)) hdrop

theorem reads_peek? (rest : List Char) : Reads peek? [] rest.head? rest := rfl

/-- **A run of digits is taken**, if it is as long as may be taken or ends
before. -/
theorem reads_digits {width : Nat} (hne : run ≠ []) (hdigits : ∀ c ∈ run, c.isDigit = true)
    (hlength : run.length ≤ width)
    (hstop : run.length = width ∨ ∀ c ∈ rest.head?, c.isDigit = false) :
    Reads (digits width) run run rest := by
  have hfound : ((run ++ rest).take width).takeWhile Char.isDigit = run := by
    rw [List.take_append, List.take_of_length_le hlength]
    refine (takeWhile_dropWhile_append hdigits ?_).1
    rcases hstop with hfull | hstop
    · rw [hfull, Nat.sub_self, List.take_zero]
      exact nofun
    · intro c hc
      rw [List.head?_take] at hc
      split at hc
      · cases hc
      · exact hstop c hc
  have hempty : run.isEmpty = false := List.isEmpty_eq_false_iff.mpr hne
  change (if (((run ++ rest).take width).takeWhile Char.isDigit).isEmpty then none
    else some (((run ++ rest).take width).takeWhile Char.isDigit,
      (run ++ rest).drop (((run ++ rest).take width).takeWhile Char.isDigit).length)) = _
  rw [hfound, hempty, List.drop_left]
  rfl

/-- A run is taken up to where it ends. -/
theorem reads_run {p : Char → Bool} (h : ∀ c ∈ run, p c = true)
    (hstop : ∀ c ∈ rest.head?, p c = false) : Reads (Scan.run p) run run rest := by
  obtain ⟨htake, hdrop⟩ := takeWhile_dropWhile_append h hstop
  change some ((run ++ rest).takeWhile p, (run ++ rest).dropWhile p) = some (run, rest)
  rw [htake, hdrop]

end Scan

end Text

namespace Time

open Decimal (digitsOf ofDigits)
open Text (Scan)
open Text.Scan (Reads forall_head? reads_blanks reads_char reads_digits reads_peek? reads_run
  reads_satisfy)

variable {width n : Nat} {rest : List Char}

/-! ## Numbers -/

theorem isDigit_of_mem_padded {c : Char} (h : c ∈ padded width n) : c.isDigit = true := by
  rcases List.mem_append.mp h with hzero | hdigit
  · rw [List.eq_of_mem_replicate hzero]
    rfl
  · exact Decimal.isDigit_of_mem_digitsOf hdigit

/-- Zeros in front change no number. -/
theorem ofDigits_padded (width n : Nat) : ofDigits (padded width n) = n := by
  rw [ofDigits, padded, Nat.ofDigitChars_append, Nat.ofDigitChars_replicate_zero, Nat.mul_zero]
  exact Decimal.ofDigits_digitsOf n

/-- A number with room has as many digits as asked for. -/
theorem length_padded (hwidth : 0 < width) (h : n < Nat.pow 10 width) :
    (padded width n).length = width := by
  have hdigits : (digitsOf n).length ≤ width :=
    (Nat.length_toDigits_le_iff (by decide) hwidth).mpr h
  rw [padded, List.length_append, List.length_replicate]
  omega

theorem padded_ne_nil : padded width n ≠ [] := by
  have hpos : 0 < (digitsOf n).length := Nat.length_toDigits_pos
  intro hnil
  have hlength := congrArg List.length hnil
  rw [padded, List.length_append, List.length_nil] at hlength
  omega

/-- A number starts with a digit. -/
theorem exists_padded (width n : Nat) : ∃ c s, padded width n = c :: s ∧ c.isDigit = true := by
  obtain ⟨c, s, h⟩ := List.exists_cons_of_ne_nil (@padded_ne_nil width n)
  exact ⟨c, s, h, isDigit_of_mem_padded (h ▸ List.mem_cons_self)⟩

/-- **A number with room is read back.** -/
theorem reads_natural (hwidth : 0 < width) (h : n < Nat.pow 10 width) :
    Reads (readNatural width) (padded width n) n rest := by
  have hlength := length_padded hwidth h
  have hdigits : Reads (Scan.digits width) (padded width n) (padded width n) rest :=
    reads_digits padded_ne_nil (fun _ => isDigit_of_mem_padded) (Nat.le_of_eq hlength)
      (.inl hlength)
  have hblanks : Reads Scan.blanks [] () (padded width n ++ rest) := by
    refine reads_blanks fun c hc => ?_
    obtain ⟨d, s, hhead, hd⟩ := exists_padded width n
    rw [hhead] at hc
    cases hc
    exact Text.isBlank_eq_false_of_isDigit hd
  have hread : Reads (readNatural width) (padded width n) (ofDigits (padded width n)) rest :=
    hblanks.after hdigits.map
  rwa [ofDigits_padded] at hread

/-- All digits of a number that ends are taken, however many there are. -/
theorem reads_signed (sign : Char) (f : Nat → Int) (n : Nat)
    (hstop : ∀ c ∈ rest.head?, c.isDigit = false) :
    Reads (do Scan.char sign; let s ← get; return f (ofDigits (← Scan.digits s.length)))
      (sign :: padded 4 n) (f n) rest := by
  have hget : Reads get [] (padded 4 n ++ rest) (padded 4 n ++ rest) := rfl
  have hdigits :
      Reads (Scan.digits (padded 4 n ++ rest).length) (padded 4 n) (padded 4 n) rest := by
    refine reads_digits padded_ne_nil (fun _ => isDigit_of_mem_padded) ?_ (.inr hstop)
    rw [List.length_append]
    exact Nat.le_add_right _ _
  have hnumber : Reads (do return f (ofDigits (← Scan.digits (padded 4 n ++ rest).length)))
      (padded 4 n) (f (ofDigits (padded 4 n))) rest := hdigits.map
  rw [ofDigits_padded] at hnumber
  exact (reads_char sign (padded 4 n ++ rest)).bind (hget.after hnumber)

/-- **A year is read back**, where no digit follows it. -/
theorem reads_year (year : Int) (hstop : ∀ c ∈ rest.head?, c.isDigit = false) :
    Reads readYear (yearText year) year rest := by
  rw [yearText]
  split
  · rename_i hfour
    have hyear : ((year.toNat : Nat) : Int) = year := by omega
    have hsize : year.toNat < 10000 := by omega
    have hlength : (padded 4 year.toNat).length = 4 := length_padded (by decide) hsize
    -- Four digits are taken, and the first of them is no sign.
    have hdigits : Reads (Scan.digits 4) (padded 4 year.toNat) (padded 4 year.toNat) rest :=
      reads_digits padded_ne_nil (fun _ => isDigit_of_mem_padded) (Nat.le_of_eq hlength)
        (.inl hlength)
    have hnumber : Reads (do return (ofDigits (← Scan.digits 4) : Int))
        (padded 4 year.toNat) (ofDigits (padded 4 year.toNat) : Int) rest :=
      hdigits.map
    rw [ofDigits_padded, hyear] at hnumber
    obtain ⟨d, s, hhead, hd⟩ := exists_padded 4 year.toNat
    rw [hhead] at hnumber ⊢
    have hblanks : Reads Scan.blanks [] () (d :: s ++ rest) :=
      reads_blanks (forall_head? (Text.isBlank_eq_false_of_isDigit hd))
    have hpeek : Reads Scan.peek? [] (some d) (d :: s ++ rest) := reads_peek? _
    refine hblanks.after (hpeek.after ?_)
    split
    · rename_i hminus
      rw [Option.some.inj hminus] at hd
      exact absurd hd (by decide)
    · rename_i hplus
      rw [Option.some.inj hplus] at hd
      exact absurd hd (by decide)
    · exact hnumber
  · rename_i hfour
    split
    · rename_i hneg
      have hread := reads_signed '-' (fun n => -(n : Int)) year.natAbs hstop
      have hyear : -(year.natAbs : Int) = year := by omega
      have hblanks : Reads Scan.blanks [] () ('-' :: padded 4 year.natAbs ++ rest) :=
        reads_blanks (forall_head? rfl)
      rw [hyear] at hread
      exact hblanks.after ((reads_peek? _).after hread)
    · rename_i hpos
      have hread := reads_signed '+' (fun n => (n : Int)) year.natAbs hstop
      have hyear : (year.natAbs : Int) = year := by omega
      have hblanks : Reads Scan.blanks [] () ('+' :: padded 4 year.natAbs ++ rest) :=
        reads_blanks (forall_head? rfl)
      rw [hyear] at hread
      exact hblanks.after ((reads_peek? _).after hread)

/-- A separator is read where it stands. -/
theorem reads_mark {c : Char} (h : Text.isBlank c = false) : Reads (readMark c) [c] () rest :=
  have hblanks : Reads Scan.blanks [] () ([c] ++ rest) :=
    reads_blanks (forall_head? h)
  hblanks.after (reads_char c rest)

/-- A point and digits are read as a fraction of a second. -/
theorem reads_point (width n : Nat) (hwidth : 0 < width) (hle : width ≤ 9)
    (hn : n < Nat.pow 10 width) (hstop : ∀ c ∈ rest.head?, c.isDigit = false) :
    Reads readFraction ('.' :: padded width n) (n * Nat.pow 10 (9 - width)) rest := by
  have hlength := length_padded hwidth hn
  have hdigits : Reads (Scan.digits 9) (padded width n) (padded width n) rest :=
    reads_digits padded_ne_nil (fun _ => isDigit_of_mem_padded) (hlength.symm ▸ hle) (.inr hstop)
  have hrest : Reads (Scan.run Char.isDigit) [] [] rest := reads_run nofun hstop
  have hnumber : Reads
      (do let run ← Scan.digits 9
          let _ ← Scan.run Char.isDigit
          return ofDigits run * Nat.pow 10 (9 - run.length))
      (padded width n ++ []) (ofDigits (padded width n) * Nat.pow 10 (9 - (padded width n).length))
      rest :=
    hdigits.bind hrest.map
  rw [List.append_nil, ofDigits_padded, hlength] at hnumber
  exact (reads_peek? _).after ((reads_char '.' _).bind hnumber)

/-- **A fraction of a second is read back**, where neither a digit nor a point
follows it. -/
theorem reads_fraction {nanos : Nat} (hnanos : nanos < 1000000000)
    (hstop : ∀ c ∈ rest.head?, c.isDigit = false) (hpoint : ∀ c ∈ rest.head?, c ≠ '.') :
    Reads readFraction (fractionText nanos) nanos rest := by
  rw [fractionText]
  split
  · rename_i hzero
    refine (reads_peek? rest).after ?_
    split
    · rename_i h
      exact absurd rfl (hpoint '.' h)
    · rw [hzero]
      exact Text.Scan.reads_pure 0 rest
  split
  · rename_i hmillis
    have hsize : nanos / 1000000 < 1000 := by omega
    have hvalue : nanos / 1000000 * 1000000 = nanos := by omega
    have hread : Reads readFraction ('.' :: padded 3 (nanos / 1000000))
        (nanos / 1000000 * 1000000) rest := reads_point 3 _ (by decide) (by decide) hsize hstop
    rwa [hvalue] at hread
  split
  · rename_i hmicros
    have hsize : nanos / 1000 < 1000000 := by omega
    have hvalue : nanos / 1000 * 1000 = nanos := by omega
    have hread : Reads readFraction ('.' :: padded 6 (nanos / 1000)) (nanos / 1000 * 1000) rest :=
      reads_point 6 _ (by decide) (by decide) hsize hstop
    rwa [hvalue] at hread
  · have hread : Reads readFraction ('.' :: padded 9 nanos) (nanos * 1) rest :=
      reads_point 9 _ (by decide) (by decide) hnanos hstop
    rwa [Nat.mul_one] at hread

/-! ## Date-times -/

/-- **The parts of a date-time are read in the order they are written in.** -/
theorem reads_fields (year : Int) {month day hour minute second nanos : Nat} (hmonth : month < 100)
    (hday : day < 100) (hhour : hour < 100) (hminute : minute < 100) (hsecond : second < 100)
    (hnanos : nanos < 1000000000) :
    Reads readFields
      (yearText year ++ (['-'] ++ (padded 2 month ++ (['-'] ++ (padded 2 day ++ (['T'] ++
        (padded 2 hour ++ ([':'] ++ (padded 2 minute ++ ([':'] ++ (padded 2 second ++
        (fractionText nanos ++ ['Z']))))))))))))
      ⟨⟨year, month, day⟩, hour, minute, second, nanos, 0⟩ [] := by
  refine (reads_year year (forall_head? rfl)).bind ?_
  refine (reads_mark (by decide)).bind ((reads_natural (by decide) hmonth).bind ?_)
  refine (reads_mark (by decide)).bind ((reads_natural (by decide) hday).bind ?_)
  refine (reads_satisfy (by decide)).bind ((reads_natural (by decide) hhour).bind ?_)
  refine (reads_mark (by decide)).bind ((reads_natural (by decide) hminute).bind ?_)
  refine (reads_mark (by decide)).bind ((reads_natural (by decide) hsecond).bind ?_)
  have hfraction : Reads readFraction (fractionText nanos) nanos ['Z'] :=
    reads_fraction hnanos (forall_head? rfl) (forall_head? (by decide))
  have hblanks : Reads Scan.blanks [] () ['Z'] := reads_blanks (forall_head? rfl)
  exact hfraction.bind (hblanks.after rfl)

namespace Instant

/-- The parts an instant is written in. -/
def fields (t : Instant) : Fields :=
  let second := t.secondOfDay.toNat
  ⟨Date.ofDays t.day, second / 3600, second / 60 % 60, second % 60 + t.nanos / 1000000000,
    t.nanos % 1000000000, 0⟩

/-- The parts of an instant are made into the instant. -/
theorem ofParts?_self (t : Instant) : ofParts? t.seconds t.nanos = some t :=
  dif_pos ⟨t.minSeconds_le, t.le_maxSeconds, t.nanos_lt, t.leap_ends_minute⟩

/-- **An instant is named by the parts it is written in.** -/
theorem toInstant?_fields (t : Instant) : t.fields.toInstant? = some t := by
  have hlow := t.minSeconds_le
  have hhigh := t.le_maxSeconds
  have hnanos := t.nanos_lt
  have hleap := t.leap_ends_minute
  rw [minSeconds] at hlow
  rw [maxSeconds] at hhigh
  have hyears : -262143 ≤ (Date.ofDays t.day).year ∧ (Date.ofDays t.day).year ≤ 262142 :=
    Date.year_ofDays_mem (by rw [day]; omega) (by rw [day]; omega)
  rw [fields, Fields.toInstant?]
  dsimp only
  rw [secondOfDay, Date.toDays_ofDays, day,
    if_pos ⟨hyears, Date.exists?_ofDays _, ⟨by omega, by omega, by omega⟩, by decide⟩]
  have hparts := t.ofParts?_self
  generalize hs : t.seconds = seconds at *
  generalize hn : t.nanos = nanos at *
  -- The seconds within the minute are 59 where a leap second follows them.
  have hminute : (seconds % 86400).toNat % 60 = (seconds % 60).toNat := by omega
  have hcarry : ((seconds % 86400).toNat % 60 + nanos / 1000000000) / 60 = nanos / 1000000000 := by
    omega
  have hclock : (((seconds % 86400).toNat / 3600 : Nat) : Int) * 3600 +
      (((seconds % 86400).toNat / 60 % 60 : Nat) : Int) * 60 +
      ((seconds % 86400).toNat % 60 : Nat) = seconds % 86400 := by
    omega
  have hfraction : nanos % 1000000000 + nanos / 1000000000 * 1000000000 = nanos := by omega
  have hday := Int.mul_ediv_add_emod seconds 86400
  rw [hcarry, Nat.add_sub_cancel, hclock, hfraction, Int.sub_zero, Int.mul_comm, hday]
  exact hparts

/-- **An instant is read back from its text.** -/
theorem ofText?_text (t : Instant) : ofText? (t.text "Z") = some t := by
  obtain ⟨hmonth, hday⟩ := Date.le_of_exists? (Date.exists?_ofDays t.day)
  have hnanos := t.nanos_lt
  have hsecond : t.secondOfDay.toNat < 86400 := by
    rw [secondOfDay]
    omega
  have hhour : t.secondOfDay.toNat / 3600 < 100 := by omega
  have hminute : t.secondOfDay.toNat / 60 % 60 < 100 := by omega
  have hleap : t.secondOfDay.toNat % 60 + t.nanos / 1000000000 < 100 := by omega
  have hzone : "Z".toList = ['Z'] := rfl
  have hread : Reads readFields (t.text "Z") t.fields [] := by
    have hfields := reads_fields (Date.ofDays t.day).year (Nat.lt_of_le_of_lt hmonth (by decide))
      (Nat.lt_of_le_of_lt hday (by decide)) hhour hminute hleap
      (Nat.mod_lt t.nanos (by decide : 0 < 1000000000))
    rw [text, fields, hzone]
    simpa only [List.append_assoc, List.cons_append, List.nil_append] using hfields
  rw [ofText?, hread.all?]
  exact t.toInstant?_fields

end Instant

end Time

end DataQuality
