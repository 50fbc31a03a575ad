import AmpMarkup.Binary64.Basic

namespace AmpMarkup.Binary64

/-!
# The shortest decimal of a binary64 number

Among the decimals that read back as a number those on the coarsest decimal grid have the fewest
digits, and of these the one nearest to the number is taken.

* `readsBack x c j` — the decimal `c * 10 ^ j` lies in the interval of reals that round to `x`.
* `gridHit? x j` — the nearest multiple of `10 ^ j` that reads back as `x`.
* `coarsestHit? x`, `shortest x` — the hit on the coarsest grid.
* `Decimal.positional` — a decimal written without exponent; `toDecimalString` — a number in that
  form.
-/

/-- A decimal numeral: `digits * 10 ^ exponent`. -/
structure Decimal where
  digits : Nat
  exponent : Int
  deriving DecidableEq, Repr

/-- Quarters of a unit from `x` down to the smallest real that rounds to it: half the distance to
    the number below, which is smaller where `x` is a power of two. -/
def quartersBelow (x : Binary64) : Nat :=
  let step := spacing x.units
  if 52 ≤ x.units.log2 ∧ x.units = Nat.pow 2 x.units.log2 then step else 2 * step

/-- Quarters of a unit from `x` up to the largest real that rounds to it. -/
def quartersAbove (x : Binary64) : Nat := 2 * spacing x.units

/-- Does the interval of reals that round to `x` hold its ends? -/
def endsRound (x : Binary64) : Bool := x.units / spacing x.units % 2 = 0

/-- `a` below `b`, or equal to it where equality is allowed. -/
def below (ends : Bool) (a b : Nat) : Bool := a < b || (ends && a = b)

/-- Is `c * 10 ^ j` among the reals that round to `x`? Both sides are compared in quarters of a
    unit, multiplied by a power of ten where `j` is negative. -/
def readsBack (x : Binary64) (c : Nat) (j : Int) : Bool :=
  let scale := Nat.pow 10 (-j).toNat
  let value := c * (4 * one * Nat.pow 10 j.toNat)
  below x.endsRound ((4 * x.units - x.quartersBelow) * scale) value
    && below x.endsRound value ((4 * x.units + x.quartersAbove) * scale)

/-- The multiple of `10 ^ j` that is nearest to `x` among those that read back as `x`; of two that
    are equally near, the larger. -/
def gridHit? (x : Binary64) (j : Int) : Option Nat :=
  let value := 4 * x.units * Nat.pow 10 (-j).toNat
  let grid := 4 * one * Nat.pow 10 j.toNat
  let c := value / grid
  match x.readsBack c j, x.readsBack (c + 1) j with
  | true, true => if 2 * (value % grid) < grid then some c else some (c + 1)
  | true, false => some c
  | false, true => some (c + 1)
  | false, false => none

/-- The hit on the coarsest grid. The grids run from `10 ^ 309`, above every number, to `10 ^ -342`,
    on which every number has a hit. -/
def coarsestHit? (x : Binary64) : Option Decimal :=
  let grids := (List.range 652).map fun (i : Nat) => (309 : Int) - i
  grids.findSome? fun j => (x.gridHit? j).map (Decimal.mk · j)

/-- The shortest decimal that reads back as `x`, which is not zero, and of these the nearest to `x`.
    Without a hit it is the number itself, written out. -/
def shortest (x : Binary64) : Decimal :=
  x.coarsestHit?.getD ⟨x.units * Nat.pow 5 1074, -1074⟩

/-- A decimal without exponent: trailing zeros for a positive exponent, else a point with at least
    one digit before it. -/
def Decimal.positional (d : Decimal) : String :=
  let digits := toString d.digits
  if 0 ≤ d.exponent then digits ++ "".pushn '0' d.exponent.toNat
  else
    let places := (-d.exponent).toNat
    let padded := "".pushn '0' (places + 1 - digits.length) ++ digits
    let whole := padded.length - places
    String.ofList (padded.toList.take whole) ++ "." ++ String.ofList (padded.toList.drop whole)

/-- A number as a decimal numeral without exponent that reads back as the number: of the shortest
    decimal, with zeros before or after it as needed. -/
def toDecimalString (x : Binary64) : String :=
  if x.units = 0 then "0" else x.shortest.positional

end AmpMarkup.Binary64
