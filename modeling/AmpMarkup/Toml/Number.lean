import AmpMarkup.Text.Ascii
import AmpMarkup.Toml.Value

namespace AmpMarkup.Toml

open AmpMarkup.Text

/-!
# Numbers

* `digitRun p` — digits with single underscores between them.
* `integerReader` — decimal with a sign, or hexadecimal, octal or binary; it has to fit 64 bits.
* `floatReader` — with a fraction, an exponent or both, or one of the special values. A number too
  large for a float is refused if positive.
-/

/-- Digits of a kind, with single underscores between them, which do not count. -/
def digitRun (p : Char → Bool) : Reader (List Char) := do
  let first ← satisfy p
  let more ← many (satisfy p <|> (do expect '_'; satisfy p))
  return first :: more

/-- A sign; true for a minus. -/
def signReader : Reader Bool := do
  match ← optionally (satisfy fun c => c == '+' || c == '-') with
  | some c => return c == '-'
  | none => return false

/-- The digits of a decimal integer, which has no superfluous zeros. -/
def decimalDigits : Reader (List Char) := do
  if ← nextIs '0' then
    expect '0'
    return ['0']
  else digitRun Char.isDigit

/-! ### Integers -/

/-- The bases other than ten, with the letters that announce them. -/
def letterBases : List (Char × Nat) := [('x', 16), ('o', 8), ('b', 2)]

/-- An integer after zero and a letter. -/
def basedInteger : Reader Int := do
  expect '0'
  let letter ← satisfy fun _ => true
  match letterBases.find? fun e => e.1 == letter with
  | none => failure
  | some (_, base) =>
    let digits ← digitRun fun c => (hexValue? c).any (· < base)
    return (digits.foldl (fun n c => base * n + (hexValue? c).getD 0) 0 : Nat)

/-- Decimal digits with a sign, if there is one. -/
def decimalInteger : Reader Int := do
  let negative ← signReader
  let n : Nat := decimalValue (← decimalDigits)
  return if negative then -n else n

/-- An integer that fits 64 bits. -/
def integerReader : Reader Int := do
  let n ← basedInteger <|> decimalInteger
  if -9223372036854775808 ≤ n ∧ n ≤ 9223372036854775807 then return n else failure

/-! ### Floats -/

/-- The float with these digits and this exponent of ten. What is certainly too large or too small
    is not computed. -/
def floatOfDecimal (negative : Bool) (digits : List Char) (exponent : Int) : Float :=
  let significant := digits.dropWhile (· == '0')
  let places : Int := significant.length + exponent
  if significant.isEmpty || places < -400 then .finite negative ⟨0⟩
  else if 400 < places then .infinite negative
  else match Binary64.ofDecimal? (decimalValue significant) exponent with
  | some x => .finite negative x
  | none => .infinite negative

/-- The digits after a point. -/
def fractionDigits : Reader (List Char) := do
  expect '.'
  digitRun Char.isDigit

/-- An exponent after its letter. -/
def exponentReader : Reader Int := do
  let _ ← satisfy fun c => c == 'e' || c == 'E'
  let negative ← signReader
  let n : Nat := decimalValue (← digitRun Char.isDigit)
  return if negative then -n else n

/-- A number with a fraction, an exponent or both. -/
def decimalFloat : Reader Float := do
  let negative ← signReader
  let whole ← decimalDigits
  let fraction? ← optionally fractionDigits
  let exponent? ← optionally exponentReader
  if fraction?.isNone && exponent?.isNone then failure
  let fraction := fraction?.getD []
  match floatOfDecimal negative (whole ++ fraction) (exponent?.getD 0 - fraction.length) with
  | .infinite false => failure
  | x => return x

/-- An infinity, or no number. -/
def specialFloat : Reader Float := do
  let negative ← signReader
  (do expectText "inf".toList; return .infinite negative)
    <|> (do expectText "nan".toList; return .notANumber)

/-- A float in either form. -/
def floatReader : Reader Float := decimalFloat <|> specialFloat

end AmpMarkup.Toml
