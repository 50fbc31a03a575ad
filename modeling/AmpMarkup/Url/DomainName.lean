import AmpMarkup.Unicode.BidiClass
import AmpMarkup.Unicode.DomainMapping
import AmpMarkup.Unicode.JoiningType
import AmpMarkup.Unicode.Mark
import AmpMarkup.Unicode.Normalization
import AmpMarkup.Url.Punycode

namespace AmpMarkup.Url

open AmpMarkup.Text AmpMarkup.Unicode

/-!
# Domain names

A domain name may use letters of all scripts. It is looked up in a form of ASCII only, in which a
label with other characters is written in Punycode after `xn--`.

* `splitOnChar` — the parts of a text between occurrences of a character.
* `Label.isValid` — the conditions on a single label: what it stands for is the label itself, it
  does not start with a mark, and joiners stand only where they have an effect.
* `Label.directionIsClear` — the condition on labels of a name in which some letter is written
  from right to left.
* `domainToAscii? s` — the ASCII form of a name, which is in lower case; none if the name is not
  valid.
-/

/-- The parts of `s` between occurrences of `sep`; one more than there are occurrences. -/
def splitOnChar (sep : Char) : List Char → List (List Char)
  | [] => [[]]
  | c :: rest =>
    if c = sep then [] :: splitOnChar sep rest
    else match splitOnChar sep rest with
    | [] => [[c]]
    | part :: parts => (c :: part) :: parts

/-- The parts with `sep` between them. -/
def joinWithChar (sep : Char) : List (List Char) → List Char
  | [] => []
  | [part] => part
  | part :: parts => part ++ sep :: joinWithChar sep parts

/-- Characters of ASCII that no mapped name has: controls, the space, delimiters of URLs, and
    capital letters. -/
def forbiddenInDomain (c : Char) : Bool :=
  c.toNat ≤ 32 || c.toNat = 127 || c.isUpper
    || ['%', '#', '/', ':', '<', '>', '?', '@', '[', '\\', ']', '^', '|'].contains c

namespace Label

/-! ### Joiners -/

/-- The sign that keeps letters apart. -/
def nonJoiner : Char := '\u200C'

/-- The sign that connects letters. -/
def joiner : Char := '\u200D'

/-- Is a joiner between `before`, given from its end, and `after` in its place? Both kinds may
    follow a virama; the non-joiner may also stand between two letters that would connect. -/
def joinerHasEffect (c : Char) (before after : List Char) : Bool :=
  let afterVirama := before.head?.any isVirama
  if c = joiner then afterVirama
  else if c = nonJoiner then
    afterVirama ||
      ((before.dropWhile isTransparent).head?.any joinsNext
        && (after.dropWhile isTransparent).head?.any joinsPrevious)
  else true

/-- Do all joiners have an effect? `before` is what has been passed, from its end. -/
def joinersHaveEffect (before : List Char) : List Char → Bool
  | [] => true
  | c :: rest => joinerHasEffect c before rest && joinersHaveEffect (c :: before) rest

/-! ### Validity -/

/-- What a text stands for in a domain name. -/
def mapAndNormalize (s : List Char) : List Char := normalize (s.flatMap mapDomainChar)

/-- A label that may be looked up: it stands for itself, holds nothing that is refused, and no mark
    or joiner is out of place. -/
def isValid (label : List Char) : Bool :=
  mapAndNormalize label == label
    && !label.contains refused
    && !label.head?.any isMark
    && joinersHaveEffect [] label

/-! ### Direction -/

/-- A character that is written from right to left. -/
def isRightToLeft (c : Char) : Bool :=
  !isAscii c && [.rightToLeft, .arabicLetter, .arabicNumber].contains (bidiClass c)

/-- A label can be read in one way only: it starts with a letter, keeps to the classes that go with
    the direction of that letter, and ends with a letter or digit of that direction, marks apart. -/
def directionIsClear (label : List Char) : Bool :=
  match label.map bidiClass with
  | [] => true
  | first :: rest =>
    let all := first :: rest
    let last? := (all.reverse.dropWhile (· = .nonspacingMark)).head?
    match first with
    | .leftToRight =>
      all.all [.leftToRight, .europeanNumber, .europeanSeparator, .commonSeparator,
        .europeanTerminator, .neutral, .boundaryNeutral, .nonspacingMark].contains
        && last?.any [.leftToRight, .europeanNumber].contains
    | .rightToLeft | .arabicLetter =>
      all.all [.rightToLeft, .arabicLetter, .arabicNumber, .europeanNumber, .europeanSeparator,
        .commonSeparator, .europeanTerminator, .neutral, .boundaryNeutral,
        .nonspacingMark].contains
        && last?.any [.rightToLeft, .arabicLetter, .europeanNumber, .arabicNumber].contains
        && !(all.contains .europeanNumber && all.contains .arabicNumber)
    | _ => false

/-! ### The two forms of a label -/

/-- What an encoded label starts with. -/
def encodedStart : List Char := ['x', 'n', '-', '-']

/-- The longest encoded part that is decoded. -/
def maxEncodedLength : Nat := 2000

/-- The longest label that is encoded. -/
def maxDecodedLength : Nat := 1000

/-- The label that a mapped label stands for: itself, or what it encodes, which then holds a
    character outside ASCII. -/
def decode? (label : List Char) : Option (List Char) :=
  if encodedStart.isPrefixOf label then
    let encoded := label.drop encodedStart.length
    if encoded.getLast? = some '-' ∨ maxEncodedLength < encoded.length then none
    else match Punycode.decode? encoded with
    | some decoded => if decoded.all isAscii then none else some decoded
    | none => none
  else some label

/-- A label in ASCII. -/
def encode? (label : List Char) : Option (List Char) :=
  if label.all isAscii then some label
  else if maxDecodedLength < label.length then none
  else some (encodedStart ++ Punycode.encode label)

end Label

/-- The labels of a mapped name, decoded, if all are valid. -/
def validLabels? (mapped : List Char) : Option (List (List Char)) := do
  let labels ← (splitOnChar '.' mapped).mapM Label.decode?
  let mixed := labels.any (·.any Label.isRightToLeft)
  if labels.all Label.isValid && (!mixed || labels.all Label.directionIsClear) then some labels
  else none

/-- The ASCII form of a domain name. -/
def domainToAscii? (s : List Char) : Option (List Char) := do
  let mapped := Label.mapAndNormalize s
  if mapped.any forbiddenInDomain then none
  else
    let labels ← validLabels? mapped
    let encoded ← labels.mapM Label.encode?
    return joinWithChar '.' encoded

end AmpMarkup.Url
