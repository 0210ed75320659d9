import DataQuality.Fault
import DataQuality.Text.Quoted
import DataQuality.Value.Basic
/-!
# Entries — what typed columns of data hold

Data from outside comes in columns of one type. An entry becomes a value
of the nearest kind: integers stay integers while they fit 64 bits with
sign, and points in time are counted in ticks from the epoch. An entry of
a type without a kind of its own becomes the text it is shown as.
-/

namespace DataQuality

/-- An entry of a typed column. Narrower integers are given as they are. -/
inductive Entry where
  | missing
  | bool (value : Bool)
  | signed (value : Int64)
  | unsigned (value : UInt64)
  | single (value : Float32)
  | double (value : Float)
  | text (value : String)
  /-- Ticks from the epoch, `rate` of them a second. -/
  | timestamp (rate : Nat) (ticks : Int64)
  /-- Days from the epoch. -/
  | date (days : Int32)
  /-- Seconds from midnight. -/
  | timeOfDay (seconds : Int32)
  | bytes (value : List UInt8)
  /-- An integer and how many of its digits stand after the point. -/
  | decimal (unscaled : Int) (scale : Int)
  | list (items : List (Option Int64))

namespace Entry

/-- How many seconds a day has. -/
def daySeconds : Int := 86400

/-- The value of an instant that may be out of range; `raw` is what the
column holds. -/
def dateTime (raw : Int) : Option Time.Instant → Except Fault Value
  | some t => .ok (.dateTime t)
  | none =>
    .error (.dataSource "DataFusion"
      ("Timestamp " ++ String.ofList (Decimal.integerText raw) ++ " is out of range") none)

/-- Two digits of a part of a time. -/
def twoDigits (n : Nat) : List Char := (if n < 10 then ['0'] else []) ++ Decimal.digitsOf n

/-- A time of day as hours, minutes and seconds. A number that is no time
of day is shown as the problem it is. -/
def timeText (seconds : Int32) : List Char :=
  let n := seconds.toInt
  if 0 ≤ n ∧ n < daySeconds then
    let s := n.toNat
    twoDigits (s / 3600) ++ ':' :: twoDigits (s / 60 % 60) ++ ':' :: twoDigits (s % 60)
  else
    "ERROR: Cast error: Failed to convert ".toList ++ Decimal.integerText n ++
      " to temporal for Time32(Second)".toList

/-- Bytes as pairs of hexadecimal digits. -/
def bytesText (bytes : List UInt8) : List Char :=
  bytes.flatMap fun b => [Text.hexDigit (b.toNat / 16), Text.hexDigit (b.toNat % 16)]

/-- An integer with a point `scale` digits from its end. Before the point
stands at least one digit; a negative scale adds zeros at the end. -/
def decimalText (unscaled scale : Int) : List Char :=
  let digits := Decimal.digitsOf unscaled.natAbs
  let sign := if unscaled < 0 then ['-'] else []
  if scale ≤ 0 then sign ++ digits ++ List.replicate scale.natAbs '0'
  else
    let places := scale.natAbs
    let padded := List.replicate (places + 1 - digits.length) '0' ++ digits
    sign ++ padded.take (padded.length - places) ++ '.' :: padded.drop (padded.length - places)

/-- The items of a list with a comma and a space between neighbours; an
item that is missing is shown as nothing. -/
def itemsText : List (Option Int64) → List Char
  | [] => []
  | [item] => (item.map fun n => Decimal.integerText n.toInt).getD []
  | item :: next :: rest =>
    (item.map fun n => Decimal.integerText n.toInt).getD [] ++ ',' :: ' ' ::
      itemsText (next :: rest)

/-- The value of an entry. An instant out of range is a fault. -/
def value : Entry → Except Fault Value
  | missing => .ok .null
  | bool b => .ok (.bool b)
  | signed n => .ok (.int n)
  | unsigned n =>
    if n.toNat < 9223372036854775808 then .ok (.int (Int64.ofNat n.toNat))
    else .ok (.float (Float.ofNat n.toNat))
  | single x => .ok (.float x.toFloat)
  | double x => .ok (.float x)
  | text s => .ok (.string s)
  | timestamp rate ticks => dateTime ticks.toInt (Time.Instant.ofTicks? rate ticks.toInt)
  | date days => dateTime days.toInt (Time.Instant.ofParts? (days.toInt * daySeconds) 0)
  | timeOfDay seconds => .ok (.string (String.ofList (timeText seconds)))
  | bytes bs => .ok (.string (String.ofList (bytesText bs)))
  | decimal unscaled scale => .ok (.string (String.ofList (decimalText unscaled scale)))
  | list items => .ok (.string (String.ofList ('[' :: itemsText items ++ [']'])))

end Entry

end DataQuality
