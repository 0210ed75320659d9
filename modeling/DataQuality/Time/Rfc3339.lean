import DataQuality.Decimal.Numeral
import DataQuality.Text.Scan
import DataQuality.Time.Instant
/-!
# RFC 3339 — date-times as text

Date-times are written in one form and read in many. The reader takes
parts of one digit, blanks between the parts, any of `T`, `t` and a space
between date and time, years with a sign, and an offset with or without a
colon, as `Z` or as `UTC`.
-/

namespace DataQuality

namespace Time

open Text (Scan isBlank)
open Decimal (digitsOf ofDigits)

/-! ## Writing -/

/-- A natural with at least `width` digits. -/
def padded (width n : Nat) : List Char :=
  List.replicate (width - (digitsOf n).length) '0' ++ digitsOf n

/-- A year from 0 to 9999 has four digits; any other has a sign too. -/
def yearText (year : Int) : List Char :=
  if 0 ≤ year ∧ year ≤ 9999 then padded 4 year.toNat
  else (if year < 0 then '-' else '+') :: padded 4 year.natAbs

/-- A fraction of a second has no digits, three, six or nine. -/
def fractionText (nanos : Nat) : List Char :=
  if nanos = 0 then []
  else if nanos % 1000000 = 0 then '.' :: padded 3 (nanos / 1000000)
  else if nanos % 1000 = 0 then '.' :: padded 6 (nanos / 1000)
  else '.' :: padded 9 nanos

/-- The date-time in universal time, followed by the text of the zone. A
leap second is written as second 60. -/
def Instant.text (t : Instant) (zone : String) : List Char :=
  let date := Date.ofDays t.day
  let second := t.secondOfDay.toNat
  let leap := t.nanos / 1000000000
  yearText date.year ++ '-' :: padded 2 date.month ++ '-' :: padded 2 date.day ++
    'T' :: padded 2 (second / 3600) ++ ':' :: padded 2 (second / 60 % 60) ++
    ':' :: padded 2 (second % 60 + leap) ++ fractionText (t.nanos % 1000000000) ++ zone.toList

/-! ## Reading -/

/-- The parts of a date-time as read. -/
structure Fields where
  date : Date
  hour : Nat
  minute : Nat
  second : Nat
  nanos : Nat
  /-- Seconds east of universal time. -/
  offset : Int
  deriving DecidableEq

/-- A natural of at most `width` digits, after blanks. -/
def readNatural (width : Nat) : Scan Nat := do
  Scan.blanks
  return ofDigits (← Scan.digits width)

/-- A year: with a sign any number of digits, without one at most four. -/
def readYear : Scan Int := do
  Scan.blanks
  match ← Scan.peek? with
  | some '-' =>
    Scan.char '-'
    let s ← get
    return -(ofDigits (← Scan.digits s.length) : Int)
  | some '+' =>
    Scan.char '+'
    let s ← get
    return ofDigits (← Scan.digits s.length)
  | _ => return ofDigits (← Scan.digits 4)

/-- A separator between two numbers, after blanks. -/
def readMark (c : Char) : Scan Unit := do
  Scan.blanks
  Scan.char c

/-- A point and digits, of which the first nine count; or nothing. -/
def readFraction : Scan Nat := do
  match ← Scan.peek? with
  | some '.' =>
    Scan.char '.'
    let run ← Scan.digits 9
    let _ ← Scan.run Char.isDigit
    return ofDigits run * Nat.pow 10 (9 - run.length)
  | _ => return 0

/-- One decimal digit not above `limit`. -/
def readDigit (limit : Nat) : Scan Nat := do
  let c ← Scan.satisfy fun c => c.isDigit && c.toNat - '0'.toNat ≤ limit
  return c.toNat - '0'.toNat

/-- Two hour digits, separators, two minute digits. -/
def readClock : Scan Int := do
  let hours := 10 * (← readDigit 9) + (← readDigit 9)
  let _ ← Scan.run fun c => c == ':' || isBlank c
  let minutes := 10 * (← readDigit 5) + (← readDigit 9)
  return (hours * 3600 + minutes * 60 : Nat)

/-- The offset from universal time, in seconds. The minus sign of the
mathematical block counts as a hyphen. -/
def readOffset : Scan Int := do
  match (← get).take 3 with
  | 'Z' :: _ => let _ ← Scan.char 'Z'; return 0
  | 'z' :: _ => let _ ← Scan.char 'z'; return 0
  | '+' :: _ => let _ ← Scan.char '+'; readClock
  | '-' :: _ => let _ ← Scan.char '-'; return -(← readClock)
  | '\u2212' :: _ => let _ ← Scan.char '\u2212'; return -(← readClock)
  | start =>
    if start.map Char.toUpper = ['U', 'T', 'C'] then
      modify (List.drop 3)
      return 0
    else failure

/-- A date-time with its offset. -/
def readFields : Scan Fields := do
  let year ← readYear
  readMark '-'
  let month ← readNatural 2
  readMark '-'
  let day ← readNatural 2
  let _ ← Scan.satisfy fun c => c == 'T' || c == 't' || c == ' '
  let hour ← readNatural 2
  readMark ':'
  let minute ← readNatural 2
  readMark ':'
  let second ← readNatural 2
  let nanos ← readFraction
  Scan.blanks
  let offset ← readOffset
  Scan.blanks
  return ⟨⟨year, month, day⟩, hour, minute, second, nanos, offset⟩

/-- The instant that the parts name. Second 60 is the leap second after
second 59; the offset is less than a day. -/
def Fields.toInstant? (f : Fields) : Option Instant :=
  let inYears := -262143 ≤ f.date.year ∧ f.date.year ≤ 262142
  let inDay := f.hour ≤ 23 ∧ f.minute ≤ 59 ∧ f.second ≤ 60
  if inYears ∧ f.date.exists? ∧ inDay ∧ f.offset.natAbs < 86400 then
    let leap := f.second / 60
    let clock : Int := f.hour * 3600 + f.minute * 60 + (f.second - leap : Nat)
    Instant.ofParts? (f.date.toDays * 86400 + clock - f.offset) (f.nanos + leap * 1000000000)
  else none

/-- The instant that a text names, if it is a date-time. -/
def Instant.ofText? (s : List Char) : Option Instant := do
  (← readFields.all? s).toInstant?

end Time

end DataQuality
