import AmpMarkup.Text.Ascii
import AmpMarkup.Toml.Reader

namespace AmpMarkup.Toml

open AmpMarkup.Text

/-!
# Quoted texts

A text stands in double quotes, with escapes, or in single quotes, as it is; three quotes of a kind
enclose a text of several lines.

* `basicReader`, `literalReader` — one line, with and without escapes.
* `longBasicReader`, `longLiteralReader` — several lines. A line break directly after the opening
  quotes does not count, and one or two quotes may stand directly before the closing ones.
* `stringReader` — any of the four.
* `writeString` — the form with the fewest escapes; among these the shorter quotes, and double
  quotes before single ones.
-/

/-! ### Reading -/

/-- A character that may stand in a text as it is, quotes and the backslash apart. -/
def isTextChar (c : Char) : Bool := isCommentChar c

/-- A character of a text in double quotes that stands for itself. -/
def isBasicChar (c : Char) : Bool := isTextChar c && c != '"' && c != '\\'

/-- A character of a text in single quotes. -/
def isLiteralChar (c : Char) : Bool := isTextChar c && c != '\''

/-- The character whose code point `n` hexadecimal digits give. -/
def codePointReader (n : Nat) : Reader Char := do
  let digits ← (List.replicate n ()).mapM fun _ => satisfy isHexDigit
  let code := digits.foldl (fun k c => 16 * k + (hexValue? c).getD 0) 0
  if code.isValidChar then return Char.ofNat code else failure

/-- The characters that letters stand for after a backslash. -/
def escapes : List (Char × Char) :=
  [('b', '\x08'), ('t', '\t'), ('n', '\n'), ('f', '\x0c'), ('r', '\r'), ('"', '"'), ('\\', '\\')]

/-- An escape. -/
def escapeReader : Reader Char := do
  expect '\\'
  let c ← satisfy fun _ => true
  match escapes.find? fun e => e.1 == c with
  | some e => return e.2
  | none =>
    if c == 'u' then codePointReader 4
    else if c == 'U' then codePointReader 8
    else failure

/-- A text of one line in double quotes. -/
def basicReader : Reader String := do
  expect '"'
  let pieces ← many (takeWhile₁ isBasicChar <|> (do return [← escapeReader]))
  expect '"'
  return String.ofList pieces.flatten

/-- A text of one line in single quotes. -/
def literalReader : Reader String := do
  expect '\''
  let content ← takeWhile isLiteralChar
  expect '\''
  return String.ofList content

/-- A line break that is part of a text. -/
def keptLineBreak : Reader (List Char) := do
  lineBreak
  return ['\n']

/-- A backslash at the end of a line, which takes all blanks and line breaks after it away. -/
def continuedLine : Reader (List Char) := do
  expect '\\'
  blanks
  lineBreak
  let blank : Reader Unit := do
    let _ ← takeWhile₁ isBlankChar
  let _ ← many (blank <|> lineBreak)
  return []

/-- One or two quotes, if they do not belong to a longer run of quotes. -/
def shortQuotes (quote : Char) : Reader (List Char) := do
  let quotes ← takeWhile₁ (· == quote)
  if quotes.length ≤ 2 then return quotes else failure

/-- The closing three quotes, and up to two quotes of the text before them. -/
def closingQuotes (quote : Char) : Reader (List Char) := do
  let quotes ← takeWhile (· == quote)
  if 3 ≤ quotes.length ∧ quotes.length ≤ 5 then return quotes.drop 3 else failure

/-- A text of several lines between three quotes of a kind. -/
def longReader (quote : Char) (piece : Reader (List Char)) : Reader String := do
  expectText [quote, quote, quote]
  let _ ← optionally lineBreak
  let pieces ← many (piece <|> keptLineBreak <|> shortQuotes quote)
  return String.ofList (pieces.flatten ++ (← closingQuotes quote))

/-- A text of several lines with escapes. -/
def longBasicReader : Reader String :=
  longReader '"' (takeWhile₁ isBasicChar <|> continuedLine <|> (do return [← escapeReader]))

/-- A text of several lines without escapes. -/
def longLiteralReader : Reader String := longReader '\'' (takeWhile₁ isLiteralChar)

/-- A text in any of the four forms. -/
def stringReader : Reader String :=
  longBasicReader <|> longLiteralReader <|> basicReader <|> literalReader

/-! ### Writing -/

/-- A control character other than the tab and the line feed. -/
def needsCode (c : Char) : Bool :=
  (c.toNat < 32 && c != '\t' && c != '\n') || c.toNat = 127

/-- The length of the longest run of `quote`; `run` is the length of the one at hand. -/
def longestRun (quote : Char) (run : Nat) : List Char → Nat
  | [] => run
  | c :: rest =>
    if c = quote then longestRun quote (run + 1) rest else max run (longestRun quote 0 rest)

/-- The upper-case hexadecimal form of a code below 128, with four digits. -/
def fourHexDigits (n : Nat) : List Char :=
  ['0', '0'] ++ [n / 16, n % 16].map fun d => Char.ofNat (if d < 10 then 48 + d else 55 + d)

/-- A character in double quotes. -/
def escaped (c : Char) : List Char :=
  match escapes.find? fun e => e.2 == c with
  | some e => ['\\', e.1]
  | none => if needsCode c then ['\\', 'u'] ++ fourHexDigits c.toNat else [c]

/-- The inside of double quotes, in which up to `allowed` quotes in a row stand as they are; `run`
    is the number of those just written. Line feeds stand as they are in a text of several lines. -/
def escapeBasic (lines : Bool) (allowed run : Nat) : List Char → List Char
  | [] => []
  | c :: rest =>
    if c = '"' then
      if run < allowed then c :: escapeBasic lines allowed (run + 1) rest
      else '\\' :: c :: escapeBasic lines allowed 0 rest
    else (if lines && c = '\n' then [c] else escaped c) ++ escapeBasic lines allowed 0 rest

/-- The inside between quotes, with a line break after the opening ones if it has one. -/
def enclose (quotes : String) (s inside : List Char) : String :=
  let opening := if quotes.length = 3 ∧ s.contains '\n' then "\n" else ""
  quotes ++ opening ++ String.ofList inside ++ quotes

/-- A text in quotes. -/
def writeString (s : String) : String :=
  let cs := s.toList
  let codes := cs.any needsCode
  let backslash := cs.contains '\\'
  let doubles := longestRun '"' 0 cs
  let singles := longestRun '\'' 0 cs
  let lines := cs.contains '\n'
  if !codes && !backslash && doubles = 0 && !lines then
    enclose "\"" cs (escapeBasic false 0 0 cs)
  else if !codes && singles = 0 && !lines then enclose "'" cs cs
  else if !codes && !backslash && doubles ≤ 2 then
    enclose "\"\"\"" cs (escapeBasic true 2 0 cs)
  else if !codes && singles ≤ 2 then enclose "'''" cs cs
  else if lines then enclose "\"\"\"" cs (escapeBasic true 2 0 cs)
  else enclose "\"" cs (escapeBasic false 0 0 cs)

/-- A character of a key without quotes. -/
def isBareKeyChar (c : Char) : Bool := c.isAlphanum || c == '-' || c == '_'

/-- A key, in quotes if need be. -/
def writeKey (s : String) : String :=
  let cs := s.toList
  let codes := cs.any fun c => needsCode c || c = '\n'
  if cs ≠ [] ∧ cs.all isBareKeyChar then s
  else if !codes && !cs.contains '\\' && !cs.contains '"' then
    enclose "\"" cs (escapeBasic false 0 0 cs)
  else if !codes && !cs.contains '\'' then enclose "'" cs cs
  else enclose "\"" cs (escapeBasic false 0 0 cs)

end AmpMarkup.Toml
