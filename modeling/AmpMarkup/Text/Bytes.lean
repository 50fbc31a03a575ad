namespace AmpMarkup.Text

/-!
# Text — bytes

A text is stored in UTF-8. A scanner that counts bytes may look at each of them, but a text can only
be cut between two characters. What a scanner asks for is given here as an option: nothing is given
where it would read beyond the end or cut a character in two.

* `bytes s`, `byteLength s` — the bytes of `s` and their number; `IsBoundary s i` — `s` can be cut
  before the byte `i`.
* `byteAt?`, `slice?`, `sliceFrom?` — a byte and a part of a text, if it is there.
* `testAt?`, `skipWhile?` — scanning bytes up to the end.
* `offsetOf? pat s` — where `pat` first occurs in `s`.
-/

/-- The bytes of a text. -/
def bytes (s : List Char) : List UInt8 := s.flatMap String.utf8EncodeChar

/-- The number of bytes of a text. -/
def byteLength (s : List Char) : Nat := (bytes s).length

/-- No character has bytes on both sides of this place in the text. -/
def IsBoundary (s : List Char) (i : Nat) : Prop :=
  String.Pos.Raw.IsValid (String.ofList s) ⟨i⟩

/-! ### Reading and cutting -/

/-- The byte at `i`, looked at as the character with this code point. -/
def byteAt? (s : List Char) (i : Nat) : Option Char := (bytes s)[i]?.map Char.ofUInt8

/-- The text before the byte `i` and the text from there on, if it can be cut there. -/
def cut? : List Char → Nat → Option (List Char × List Char)
  | s, 0 => some ([], s)
  | [], _ + 1 => none
  | c :: rest, i + 1 =>
    if c.utf8Size ≤ i + 1 then
      (cut? rest (i + 1 - c.utf8Size)).map fun (before, after) => (c :: before, after)
    else none

/-- The text from the byte `start` up to the byte `stop`. -/
def slice? (s : List Char) (start stop : Nat) : Option (List Char) :=
  if start ≤ stop then do
    let (_, after) ← cut? s start
    let (inside, _) ← cut? after (stop - start)
    return inside
  else none

/-- The text from the byte `start` on. -/
def sliceFrom? (s : List Char) (start : Nat) : Option (List Char) := slice? s start (byteLength s)

/-! ### Scanning -/

/-- Is there a byte at `k`, and does it satisfy `p`? -/
def testAt? (p : Char → Bool) (s : List Char) (k : Nat) : Option Bool :=
  if k < byteLength s then (byteAt? s k).map p else some false

/-- The place of the first byte from `k` on that does not satisfy `p`, or the end. -/
def skipWhile? (p : Char → Bool) (s : List Char) (k : Nat) : Option Nat :=
  if k < byteLength s then
    match byteAt? s k with
    | some b => if p b then skipWhile? p s (k + 1) else some k
    | none => none
  else some k
termination_by byteLength s - k

/-- The number of bytes before the first occurrence of `pat`. -/
def offsetOf? (pat : List Char) : List Char → Option Nat
  | [] => if pat = [] then some 0 else none
  | c :: rest =>
    if pat.isPrefixOf (c :: rest) then some 0 else (offsetOf? pat rest).map (c.utf8Size + ·)

end AmpMarkup.Text
