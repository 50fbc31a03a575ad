import AmpMarkup.Binary64.Shortest
import AmpMarkup.Conversion.Policy
import AmpMarkup.Text.Ascii
import AmpMarkup.Text.Blank

namespace AmpMarkup.Conversion

open AmpMarkup.Text

/-!
# Widths and heights

An authored length is brought into the form `auto` or a plain number of pixels; what cannot be
understood is dropped.

* `Numeral` — digits with at most one point, `Numeral.ofChars?` and its value `Numeral.toBinary64?`.
* `Axis` — only a width may be a percentage, of the width of the content.
* `Policy.normalizeLength?` — the length in its normal form.
-/

/-- The side of a box that a length measures. -/
inductive Axis where
  | width
  | height
  deriving DecidableEq, Repr

/-- The largest length in pixels. -/
def maxPixels : Nat := 4294967295

/-! ### Numerals -/

/-- Digits before and after a point, which may be missing. -/
structure Numeral where
  whole : List Char
  fraction : List Char
  deriving DecidableEq, Repr

namespace Numeral

/-- ASCII digits with at most one point and at least one digit. -/
def ofChars? (s : List Char) : Option Numeral :=
  let whole := s.takeWhile Char.isDigit
  let fraction? : Option (List Char) :=
    match s.dropWhile Char.isDigit with
    | [] => some []
    | '.' :: rest => if rest.all Char.isDigit then some rest else none
    | _ => none
  fraction?.bind fun fraction =>
    if whole.isEmpty && fraction.isEmpty then none else some ⟨whole, fraction⟩

/-- The number that a list of digits stands for. -/
def digitsValue (digits : List Char) : Nat :=
  digits.foldl (fun n c => 10 * n + (c.toNat - 48)) 0

/-- The nearest binary64 number; none if it is too large. -/
def toBinary64? (n : Numeral) : Option Binary64 :=
  Binary64.ofDecimal? (digitsValue (n.whole ++ n.fraction)) (-(n.fraction.length : Int))

end Numeral

/-- The number that a numeral stands for. -/
def readNumber? (s : List Char) : Option Binary64 := (Numeral.ofChars? s).bind (·.toBinary64?)

/-! ### Suffixes -/

/-- `s` without the suffix `tail`, whose letters may be of either case. -/
def dropSuffix? (tail s : List Char) : Option (List Char) :=
  let n := s.length - tail.length
  if sameFoldChars (s.drop n) tail then some (s.take n) else none

/-- The number before the suffix `tail`, with blanks allowed between the two; the outer option says
    whether the suffix is there. -/
def readSuffixed? (tail s : List Char) : Option (Option Binary64) :=
  (dropSuffix? tail s).map fun number => readNumber? (trimEnd isBlank number)

/-! ### The normal form -/

/-- A number of pixels, unless it is too large; a natural number has no point. -/
def pixels? (x : Binary64) : Option String :=
  if x.leNat maxPixels then some (if x.isNatural then toString x.floor else x.toDecimalString)
  else none

/-- Whole pixels of a length given in pixels; the fraction is cut off. -/
def wholePixels? (x : Binary64) : Option String :=
  if x.leNat maxPixels then some (toString x.floor) else none

/-- Whole pixels of a percentage of a width: a hundredth of the percentage, times the width, to the
    nearest integer. -/
def percentPixels? (percent : Binary64) (contentWidth : UInt32) : Option String := do
  let hundredth ← percent.div? (← Binary64.ofNat? 100)
  let exact ← hundredth.mul? (← Binary64.ofNat? contentWidth.toNat)
  if exact.roundHalfUp ≤ maxPixels then some (toString exact.roundHalfUp) else none

/-- The normal form of a trimmed length. -/
def Policy.normalizeTrimmed? (policy : Policy) (axis : Axis) (s : List Char) : Option String :=
  if sameFoldChars s "auto".toList then some "auto"
  else match readNumber? s with
  | some x => pixels? x
  | none =>
    match readSuffixed? "px".toList s with
    | some x? => x?.bind wholePixels?
    | none =>
      match axis, policy.contentMaxWidth?, readSuffixed? ['%'] s with
      | .width, some contentWidth, some x? => x?.bind (percentPixels? · contentWidth)
      | _, _, _ => none

/-- The normal form of a length: `auto`, or a number of at most `maxPixels` pixels. Blanks around
    the length do not count. -/
def Policy.normalizeLength? (policy : Policy) (axis : Axis) (value : String) : Option String :=
  policy.normalizeTrimmed? axis (trim isBlank value.toList)

end AmpMarkup.Conversion
