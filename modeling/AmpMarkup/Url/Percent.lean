import AmpMarkup.Text.Ascii

namespace AmpMarkup.Url

open AmpMarkup.Text

/-!
# Percent-encoding

A byte is written as a percent sign and two hexadecimal digits. Characters outside ASCII are
written as the bytes of their UTF-8 form.

* `percentEncode set s` — the characters of `set`, and all outside ASCII, encoded.
* `percentDecode? s` — every encoded byte replaced; none if the bytes are not UTF-8.
* `controlSet`, `fragmentSet`, `pathSet`, `userSet`, `querySet`, `specialQuerySet` — what the parts
  of a URL encode.
-/

/-! ### Coding -/

/-- The hexadecimal digit of a number below 16, in upper case. -/
def hexDigit (n : Nat) : Char := if n < 10 then Char.ofNat (48 + n) else Char.ofNat (55 + n)

/-- An encoded byte. -/
def percentByte (b : UInt8) : List Char :=
  ['%', hexDigit (b.toNat / 16), hexDigit (b.toNat % 16)]

/-- A character, encoded if it is in the set or outside ASCII. -/
def percentEncodeChar (set : Char → Bool) (c : Char) : List Char :=
  if isAscii c && !set c then [c] else (String.utf8EncodeChar c).flatMap percentByte

/-- A text, with the characters of the set and those outside ASCII encoded. -/
def percentEncode (set : Char → Bool) (s : List Char) : List Char :=
  s.flatMap (percentEncodeChar set)

/-- The bytes of a text; a percent sign that two hexadecimal digits follow makes one byte of
    them. -/
def percentDecodeBytes : List Char → List UInt8
  | [] => []
  | '%' :: a :: b :: rest =>
    match hexValue? a, hexValue? b with
    | some hi, some lo => UInt8.ofNat (16 * hi + lo) :: percentDecodeBytes rest
    | _, _ => 37 :: percentDecodeBytes (a :: b :: rest)
  | c :: rest => String.utf8EncodeChar c ++ percentDecodeBytes rest

/-- The text whose bytes these are, if they are UTF-8. -/
def decodeUtf8? (bytes : List UInt8) : Option (List Char) :=
  (String.fromUTF8? ⟨bytes.toArray⟩).map String.toList

/-- A text with its encoded bytes replaced. -/
def percentDecode? (s : List Char) : Option (List Char) :=
  if s.contains '%' then decodeUtf8? (percentDecodeBytes s) else some s

/-! ### What is encoded where -/

/-- The control characters of ASCII. -/
def controlSet (c : Char) : Bool := c.toNat < 32 || c.toNat = 127

/-- Fragments. -/
def fragmentSet (c : Char) : Bool := controlSet c || [' ', '"', '<', '>', '\x60'].contains c

/-- Paths. -/
def pathSet (c : Char) : Bool := fragmentSet c || ['#', '?', '\x7b', '\x7d'].contains c

/-- User names and passwords. -/
def userSet (c : Char) : Bool :=
  pathSet c || ['/', ':', ';', '=', '@', '[', '\\', ']', '^', '|'].contains c

/-- Queries. -/
def querySet (c : Char) : Bool := controlSet c || [' ', '"', '#', '<', '>'].contains c

/-- Queries of URLs with a special scheme. -/
def specialQuerySet (c : Char) : Bool := querySet c || c == '\''

end AmpMarkup.Url
