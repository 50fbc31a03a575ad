import AmpMarkup.Markup.Reader
import AmpMarkup.Text.Bytes

namespace AmpMarkup.Markup

open AmpMarkup.Text

/-!
# Reading markup byte by byte

The same markup is read with a cursor that counts bytes. Names, values and texts are slices between
two places of the cursor. Each function gives nothing if a byte is read beyond the end, if a slice
does not begin and end between characters, or if a round of a loop leaves the cursor where it was.

* `valueAt?`, `assignmentAt?` — the value of an attribute, and the place after it.
* `tagRound?`, `tagAt?` — one round of the loop over the inside of a start tag, and all of them.
* `textAt?`, `commentAt?`, `declarationAt?`, `endTagAt?`, `startTagAt?` — the kinds of tokens;
  `tokenAt?` — one token, and the place after it.
* `readMarkupBytewise?` — the document of a text.
-/

/-! ### Attributes -/

/-- A quotation mark of either kind. -/
def isQuote (c : Char) : Bool := c = '"' || c = '\''

/-- A character of a value without quotes. -/
def isValueChar (c : Char) : Bool := !isAsciiBlank c && c ≠ '>'

/-- The value that begins at `k`, in quotes or not. -/
def valueAt? (s : List Char) (k : Nat) : Option (List Char × Nat) := do
  if ← testAt? isQuote s k then
    let quote ← byteAt? s k
    let stop ← skipWhile? (· ≠ quote) s (k + 1)
    let value ← slice? s (k + 1) stop
    return (value, if stop < byteLength s then stop + 1 else stop)
  else
    let stop ← skipWhile? isValueChar s k
    let value ← slice? s k stop
    return (value, stop)

/-- The value that is assigned to a name which ends at `k`. -/
def assignmentAt? (s : List Char) (k : Nat) : Option (List Char × Nat) := do
  let k ← skipWhile? isAsciiBlank s k
  if ← testAt? (· = '=') s k then
    let start ← skipWhile? isAsciiBlank s (k + 1)
    valueAt? s start
  else
    return ([], k)

/-- What a round of the loop over the inside of a start tag comes to. -/
inductive TagRound where
  /-- The tag ends before the byte `next`. -/
  | stop (selfClosing : Bool) (next : Nat)
  /-- The loop goes on at the byte `next`. -/
  | more (found : Attributes) (next : Nat)
  deriving Repr

/-- What is at `k`, where the inside of a start tag goes on without blanks. -/
def tagItem? (s : List Char) (found : Attributes) (k : Nat) : Option TagRound := do
  if byteLength s ≤ k then
    return .stop false k
  else
    let b ← byteAt? s k
    if b = '>' then
      return .stop false (k + 1)
    else if b = '/' then
      if ← testAt? (· = '>') s (k + 1) then
        return .stop true (k + 2)
      else
        return .more found (k + 1)
    else
      let stop ← skipWhile? isNameChar s k
      if stop = k then
        return .more found (k + 1)
      else
        let name ← slice? s k stop
        let (value, next) ← assignmentAt? s stop
        return .more
          (found.setIfAbsent (String.ofList name) (String.ofList (decodeEntities value))) next

/-- One round of the loop over the inside of a start tag. -/
def tagRound? (s : List Char) (found : Attributes) (k : Nat) : Option TagRound := do
  let k ← skipWhile? isAsciiBlank s k
  tagItem? s found k

/-- The attributes of a start tag from `k` on, whether it ends in a slash, and the place after
    it. -/
def tagAt? (s : List Char) (found : Attributes) (k : Nat) : Option (Attributes × Bool × Nat) :=
  match tagRound? s found k with
  | some (.stop selfClosing next) => some (found, selfClosing, next)
  | some (.more found next) =>
    if k < next ∧ next ≤ byteLength s then tagAt? s found next else none
  | none => none
termination_by byteLength s - k

/-! ### Tokens -/

/-- A text, up to the next `<`. -/
def textAt? (s : List Char) (i : Nat) : Option (Token × Nat) := do
  let stop ← skipWhile? (· ≠ '<') s i
  let content ← slice? s i stop
  return (.text (String.ofList (decodeEntities content)), stop)

/-- A comment, up to its end or that of the text. -/
def commentAt? (s : List Char) (i : Nat) : Option (Token × Nat) := do
  let start := i + 4
  match offsetOf? "-->".toList (← sliceFrom? s start) with
  | some offset =>
    let content ← slice? s start (start + offset)
    return (.comment (String.ofList content), start + offset + 3)
  | none =>
    let content ← sliceFrom? s start
    return (.comment (String.ofList content), byteLength s)

/-- A declaration, up to the next `>` or to the end of the text. -/
def declarationAt? (s : List Char) (i : Nat) : Option (Token × Nat) := do
  match offsetOf? ['>'] (← sliceFrom? s i) with
  | some offset => return (.declaration, i + offset + 1)
  | none => return (.declaration, byteLength s)

/-- An end tag, up to the next `>` or to the end of the text. -/
def endTagAt? (s : List Char) (i : Nat) : Option (Token × Nat) := do
  let stop ← skipWhile? isNameChar s (i + 2)
  let name ← slice? s (i + 2) stop
  let close ← skipWhile? (· ≠ '>') s stop
  return (.endTag (fold (String.ofList name)), min (close + 1) (byteLength s))

/-- A start tag, or a `<` that begins none. -/
def startTagAt? (s : List Char) (i : Nat) : Option (Token × Nat) := do
  let stop ← skipWhile? isNameChar s (i + 1)
  if stop = i + 1 then
    return (.text "<", i + 1)
  else
    let name ← slice? s (i + 1) stop
    let (attributes, selfClosing, next) ← tagAt? s .empty stop
    return (.startTag (fold (String.ofList name)) attributes selfClosing, next)

/-- The token that begins at `i`, and the place after it. -/
def tokenAt? (s : List Char) (i : Nat) : Option (Token × Nat) := do
  let b ← byteAt? s i
  if b ≠ '<' then
    textAt? s i
  else if "<!--".toList.isPrefixOf (← sliceFrom? s i) then
    commentAt? s i
  else if "<!".toList.isPrefixOf (← sliceFrom? s i) then
    declarationAt? s i
  else if ← testAt? (· = '/') s (i + 1) then
    endTagAt? s i
  else
    startTagAt? s i

/-- The reading after the tokens from `i` on. -/
def readFrom? (s : List Char) (r : Reading) (i : Nat) : Option Reading :=
  if i < byteLength s then
    match tokenAt? s i with
    | some (token, next) => if i < next then readFrom? s (r.add token) next else none
    | none => none
  else some r
termination_by byteLength s - i

/-- The document whose root holds what `s` says. -/
def readMarkupBytewise? (s : String) : Option Document :=
  (readFrom? s.toList .start 0).map Reading.document

end AmpMarkup.Markup
