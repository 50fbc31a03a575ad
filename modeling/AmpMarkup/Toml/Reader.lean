namespace AmpMarkup.Toml

/-!
# Reading text

A reader takes something from the beginning of a text, or fails. Alternatives start again from the
same place.

* `Reader` — readers; `Reader.run?` reads a whole text.
* `satisfy`, `expect`, `expectText`, `takeWhile` — single characters and runs of characters.
* `many`, `sepBy` — repetitions. Each item takes at least one character, so there are no more
  items than characters.
* `blanks`, `lineBreak`, `lineEnd`, `blankLines` — what separates the parts of a document.
-/

/-- Takes something from the beginning of a text, or fails. -/
abbrev Reader := StateT (List Char) Option

/-- What a reader makes of a whole text; nothing may be left over. -/
def Reader.run? {α : Type} (r : Reader α) (s : List Char) : Option α :=
  match StateT.run r s with
  | some (a, []) => some a
  | _ => none

/-! ### Characters -/

/-- The next character, which has to satisfy `p`. -/
def satisfy (p : Char → Bool) : Reader Char := do
  match ← get with
  | c :: rest => if p c then do set rest; return c else failure
  | [] => failure

/-- The character `c`. -/
def expect (c : Char) : Reader Unit := do
  let _ ← satisfy (· == c)

/-- The characters of `s` one after the other. -/
def expectText (s : List Char) : Reader Unit := s.forM expect

/-- All characters up to the first that does not satisfy `p`. -/
def takeWhile (p : Char → Bool) : Reader (List Char) :=
  modifyGet fun s => (s.takeWhile p, s.dropWhile p)

/-- At least one character. -/
def takeWhile₁ (p : Char → Bool) : Reader (List Char) := do
  let cs ← takeWhile p
  if cs.isEmpty then failure else return cs

/-- Is the next character `c`? -/
def nextIs (c : Char) : Reader Bool := return (← get).head? == some c

/-! ### Repetitions -/

/-- Nothing is taken where `r` fails. -/
def optionally {α : Type} (r : Reader α) : Reader (Option α) :=
  (some <$> r) <|> pure none

/-- At most `fuel` items, up to the first place where `item` fails. -/
def manyUpTo {α : Type} (item : Reader α) : Nat → Reader (List α)
  | 0 => return []
  | fuel + 1 => do
    match ← optionally item with
    | none => return []
    | some a => return a :: (← manyUpTo item fuel)

/-- Items up to the first place where `item` fails. -/
def many {α : Type} (item : Reader α) : Reader (List α) := do manyUpTo item (← get).length

/-- Items with a separator between each two. -/
def sepBy {α : Type} (item : Reader α) (separator : Char) : Reader (List α) := do
  match ← optionally item with
  | none => return []
  | some a => return a :: (← many do expect separator; item)

/-! ### Between the parts of a document -/

/-- A space or a tab. -/
def isBlankChar (c : Char) : Bool := c == ' ' || c == '\t'

/-- A character of a comment: no control character but the tab. -/
def isCommentChar (c : Char) : Bool := c == '\t' || (32 ≤ c.toNat && c.toNat ≠ 127)

/-- Spaces and tabs, if there are any. -/
def blanks : Reader Unit := do
  let _ ← takeWhile isBlankChar

/-- A line feed, with or without a carriage return before it. -/
def lineBreak : Reader Unit := expect '\n' <|> expectText ['\r', '\n']

/-- A comment, up to the end of the line. -/
def comment : Reader Unit := do
  expect '#'
  let _ ← takeWhile isCommentChar

/-- The end of the text. -/
def textEnd : Reader Unit := do
  if (← get).isEmpty then return else failure

/-- The end of a line, after blanks and perhaps a comment. -/
def lineEnd : Reader Unit := do
  blanks
  let _ ← optionally comment
  lineBreak <|> textEnd

/-- Blanks, line breaks and comments. -/
def blankLines : Reader Unit := do
  let blank : Reader Unit := do
    let _ ← takeWhile₁ isBlankChar
  let _ ← many (blank <|> lineBreak <|> comment)

end AmpMarkup.Toml
