namespace AmpMarkup

/-!
# Non-negative binary64 numbers

Every finite binary64 number is a multiple of `2 ^ -1074`, so a non-negative one is a natural
number of these units, and its arithmetic is exact arithmetic followed by one rounding.

* `Binary64.spacing u` — the distance between neighbouring numbers at `u` units.
* `roundHalfEven num den` — the nearest natural number, a half going to the even neighbour.
* `Binary64.ofRatio? num den` — the nearest binary64 number to a quotient; none if it is too large.
* `Binary64.ofDecimal?`, `Binary64.div?`, `Binary64.mul?` — a decimal numeral, quotient and product
  of two numbers, each rounded once.
* `Binary64.floor`, `Binary64.roundHalfUp`, `Binary64.isNatural` — integers near a number.
-/

/-- `num / den` to the nearest natural number; a half goes to the even neighbour. -/
def roundHalfEven (num den : Nat) : Nat :=
  let q := num / den
  let twice := 2 * (num % den)
  if twice < den then q else if den < twice then q + 1 else q + q % 2

/-- A finite binary64 number that is not negative, in units of `2 ^ -1074`. -/
structure Binary64 where
  units : Nat
  deriving DecidableEq, Repr, Inhabited

namespace Binary64

/-- The number of units that make one. -/
def one : Nat := Nat.pow 2 1074

/-- The first number of units that is too large: `2 ^ 1024`. -/
def limit : Nat := Nat.pow 2 2098

/-- The distance, in units, from a number of `u` units to the next: 53 binary digits are kept. -/
def spacing (u : Nat) : Nat := Nat.pow 2 (u.log2 - 52)

/-- The binary64 number nearest to `num / den`, halves to even; none from `2 ^ 1024` on. -/
def ofRatio? (num den : Nat) : Option Binary64 :=
  let step := spacing (num * one / den)
  let units := step * roundHalfEven (num * one) (den * step)
  if units < limit then some ⟨units⟩ else none

/-- The binary64 number nearest to `digits * 10 ^ exponent`. -/
def ofDecimal? (digits : Nat) (exponent : Int) : Option Binary64 :=
  if 0 ≤ exponent then ofRatio? (digits * Nat.pow 10 exponent.toNat) 1
  else ofRatio? digits (Nat.pow 10 (-exponent).toNat)

/-- A natural number, if it is small enough. -/
def ofNat? (n : Nat) : Option Binary64 := ofRatio? n 1

/-- The quotient, rounded. -/
def div? (x y : Binary64) : Option Binary64 := ofRatio? x.units y.units

/-- The product, rounded. -/
def mul? (x y : Binary64) : Option Binary64 := ofRatio? (x.units * y.units) (one * one)

/-- Is `x` at most the natural number `n`? -/
def leNat (x : Binary64) (n : Nat) : Bool := x.units ≤ n * one

/-- Is `x` a natural number? -/
def isNatural (x : Binary64) : Bool := x.units % one = 0

/-- The largest natural number that is not above `x`. -/
def floor (x : Binary64) : Nat := x.units / one

/-- The nearest natural number; a half goes up. -/
def roundHalfUp (x : Binary64) : Nat := (2 * x.units + one) / (2 * one)

end Binary64

end AmpMarkup
