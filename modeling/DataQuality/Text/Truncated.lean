/-!
# Truncated text — a cut at a number of UTF-8 bytes

A logged value may be long. The limit counts bytes, and a cut never
splits a character: what is kept is the longest run of whole characters
that fits.
-/

namespace DataQuality

namespace Text

/-- The number of bytes a text takes in UTF-8. -/
def byteLength : List Char → Nat
  | [] => 0
  | c :: rest => c.utf8Size + byteLength rest

/-- The longest run of whole leading characters that fits `limit` bytes. -/
def takeBytes (limit : Nat) : List Char → List Char
  | [] => []
  | c :: rest =>
    if c.utf8Size ≤ limit then c :: takeBytes (limit - c.utf8Size) rest else []

/-- What follows a text that was cut. -/
def truncationMark : String := "...(truncated)"

/-- The text itself if it fits `limit` bytes, else the part that fits and
a mark that something is missing. -/
def truncate (limit : Nat) (s : String) : String :=
  if byteLength s.toList ≤ limit then s
  else String.ofList (takeBytes limit s.toList) ++ truncationMark

/-- The kept part fits the limit. -/
theorem byteLength_takeBytes_le (limit : Nat) (s : List Char) :
    byteLength (takeBytes limit s) ≤ limit := by
  induction s generalizing limit with
  | nil => simp [takeBytes, byteLength]
  | cons c rest ih =>
    rw [takeBytes]
    split
    · have := ih (limit - c.utf8Size)
      simp only [byteLength]
      omega
    · simp [byteLength]

end Text

end DataQuality
