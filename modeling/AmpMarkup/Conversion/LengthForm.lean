import AmpMarkup.Conversion.Length
import Mathlib.Data.Rat.Cast.Defs

namespace AmpMarkup.Conversion

open AmpMarkup.Text

/-!
# The texts of lengths

What a length may look like and what it stands for is said here without reading it: a numeral is
its digits and its point, and it stands for a rational number that is not rounded.

* `Numeral.IsWritten n s` — `s` is the numeral `n`; `Numeral.value` — the number it stands for.
* `IsLengthText policy axis s` — the texts that can be lengths.
* `IsNormalLength s` — the texts that lengths are brought into.
* `wholePixelText? k` — the text of `k` pixels, unless they are too many.
-/

namespace Numeral

/-- `s` is made of the digits of `n`, with a point before those of the fraction. The point may be
    missing if there are none. -/
structure IsWritten (n : Numeral) (s : List Char) : Prop where
  digits (c : Char) : c ∈ n.whole ++ n.fraction → c.isDigit = true
  ne_nil : n.whole ++ n.fraction ≠ []
  text_eq : s = n.whole ++ '.' :: n.fraction ∨ s = n.whole ∧ n.fraction = []

/-- The number that the digits stand for, exactly. -/
def value (n : Numeral) : ℚ :=
  Nat.ofDigitChars 10 (n.whole ++ n.fraction) 0 / 10 ^ n.fraction.length

end Numeral

/-- The texts that can be lengths: `auto`, a numeral, a numeral with `px`, and for the width of
    something on a page of known width a numeral with a percent sign. Letters may be of either case,
    and blanks may stand before the unit. -/
inductive IsLengthText (policy : Policy) (axis : Axis) : List Char → Prop where
  | auto {s : List Char} : sameFoldChars s "auto".toList = true → IsLengthText policy axis s
  | number {n : Numeral} {s : List Char} : n.IsWritten s → IsLengthText policy axis s
  | pixels {n : Numeral} {s blanks unit : List Char} : n.IsWritten s →
    (∀ c ∈ blanks, isBlank c = true) → sameFoldChars unit "px".toList = true →
    IsLengthText policy axis (s ++ blanks ++ unit)
  | percent {n : Numeral} {s blanks : List Char} : axis = .width →
    policy.contentMaxWidth?.isSome = true → n.IsWritten s →
    (∀ c ∈ blanks, isBlank c = true) → IsLengthText policy axis (s ++ blanks ++ ['%'])

/-- The normal forms: `auto`, or a numeral for at most `maxPixels` pixels. If it stands for a
    natural number it is written as such, without a point or a zero before it. -/
def IsNormalLength (s : String) : Prop :=
  s = "auto" ∨ ∃ n : Numeral, n.IsWritten s.toList ∧ n.value ≤ maxPixels ∧
    ∀ k : ℕ, n.value = k → s = toString k

/-- The decimal numeral of a number of pixels, unless there are too many. -/
def wholePixelText? (k : Nat) : Option String :=
  if k ≤ maxPixels then some (toString k) else none

end AmpMarkup.Conversion
