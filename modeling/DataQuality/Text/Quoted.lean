/-!
# Quoted text — the body of a string literal

Inside quotes a quotation mark, a backslash and the control characters
below U+0020 are written as escapes and everything else stands for itself.
A body is kept as written until its text is asked for: a body may hold an
unpaired surrogate escape, which is a body but not a text.
-/

namespace DataQuality

namespace Text

/-! ## Writing -/

/-- The lower-case hexadecimal digit of a number below 16. -/
def hexDigit (n : Nat) : Char := Nat.digitChar n

/-- How one character is written inside quotes. -/
def escapeChar (c : Char) : List Char :=
  if c = '"' then ['\\', '"']
  else if c = '\\' then ['\\', '\\']
  else if 0x20 ≤ c.toNat then [c]
  else if c.toNat = 0x08 then ['\\', 'b']
  else if c.toNat = 0x0C then ['\\', 'f']
  else if c = '\n' then ['\\', 'n']
  else if c = '\r' then ['\\', 'r']
  else if c = '\t' then ['\\', 't']
  else ['\\', 'u', '0', '0', hexDigit (c.toNat / 16), hexDigit (c.toNat % 16)]

/-- The body that stands for a text. -/
def quoteBody (s : List Char) : List Char := s.flatMap escapeChar

/-! ## Reading -/

/-- The value of a hexadecimal digit of either case. -/
def hexValue? (c : Char) : Option Nat :=
  if c.isDigit then some (c.toNat - '0'.toNat)
  else if 'a' ≤ c ∧ c ≤ 'f' then some (c.toNat - 'a'.toNat + 10)
  else if 'A' ≤ c ∧ c ≤ 'F' then some (c.toNat - 'A'.toNat + 10)
  else none

/-- The value of four hexadecimal digits. -/
def hexValue4? (a b c d : Char) : Option Nat := do
  return (((← hexValue? a) * 16 + (← hexValue? b)) * 16 + (← hexValue? c)) * 16 + (← hexValue? d)

/-- The character a letter after a backslash stands for. -/
def unescape? : Char → Option Char
  | '"' => some '"'
  | '\\' => some '\\'
  | '/' => some '/'
  | 'b' => some '\x08'
  | 'f' => some '\x0c'
  | 'n' => some '\n'
  | 'r' => some '\r'
  | 't' => some '\t'
  | _ => none

/-- Splits a text after an opening quote into the body and what follows
the closing quote. Fails on a control character, an unknown escape and a
missing closing quote. -/
def scanBody : List Char → Option (List Char × List Char)
  | [] => none
  | '"' :: rest => some ([], rest)
  | '\\' :: 'u' :: a :: b :: c :: d :: rest =>
    if (hexValue4? a b c d).isSome then
      (scanBody rest).map fun r => ('\\' :: 'u' :: a :: b :: c :: d :: r.1, r.2)
    else none
  | '\\' :: c :: rest =>
    if (unescape? c).isSome then (scanBody rest).map fun r => ('\\' :: c :: r.1, r.2) else none
  | c :: rest =>
    if c.toNat < 0x20 then none else (scanBody rest).map fun r => (c :: r.1, r.2)

/-- Whether a code unit is the first of a surrogate pair. -/
def isHighSurrogate (n : Nat) : Bool := 0xD800 ≤ n && n < 0xDC00

/-- Whether a code unit is the second of a surrogate pair. -/
def isLowSurrogate (n : Nat) : Bool := 0xDC00 ≤ n && n < 0xE000

/-- The text a body stands for. A surrogate escape must be one of a pair. -/
def unquoteBody? : List Char → Option (List Char)
  | [] => some []
  | '\\' :: 'u' :: a :: b :: c :: d :: rest =>
    match hexValue4? a b c d with
    | none => none
    | some n =>
      if isLowSurrogate n then none
      else if isHighSurrogate n then
        match rest with
        | '\\' :: 'u' :: a' :: b' :: c' :: d' :: rest =>
          match hexValue4? a' b' c' d' with
          | none => none
          | some m =>
            if isLowSurrogate m then
              let pair := (n - 0xD800) * 0x400 + (m - 0xDC00) + 0x10000
              (unquoteBody? rest).map (Char.ofNat pair :: ·)
            else none
        | _ => none
      else (unquoteBody? rest).map (Char.ofNat n :: ·)
  | '\\' :: c :: rest =>
    match unescape? c with
    | none => none
    | some c => (unquoteBody? rest).map (c :: ·)
  | c :: rest => (unquoteBody? rest).map (c :: ·)

end Text

end DataQuality
