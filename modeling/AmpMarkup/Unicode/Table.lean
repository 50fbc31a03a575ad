import AmpMarkup.Text.Ascii

namespace AmpMarkup.Unicode

open AmpMarkup.Text

/-!
# Tables of character properties

A table is written as lines of rows, separated by spaces, with all numbers in hexadecimal. A row is
a code point `41`, a range `41-5A`, or every second code point of a range `100-12E/2`; what follows
an equals sign is the value of the first code point, several numbers being separated by points.

* `Row`, `readTable` — the rows of the lines.
* `Row.value?` — the value of a code point; in a row of several code points a value that is one
  number grows with the code point.
* `isIdeograph` — the unified ideographs, of which there are no rows: they are all alike.
* `inTable`, `lookUp?` — is a character in some row, and the value of the first row that has it.
-/

/-- Some code points at equal distances, and the value of the first of them. -/
structure Row where
  first : Nat
  last : Nat
  step : Nat
  value : List Nat
  deriving DecidableEq, Repr

/-- The number that hexadecimal digits stand for. -/
def hexNumber (digits : String) : Nat :=
  digits.toList.foldl (fun n c => 16 * n + (hexValue? c).getD 0) 0

/-- One row. -/
def readRow (row : String) : Row :=
  let sides := row.splitOn "="
  let domain := (sides.headD "").splitOn "/"
  let ends := (domain.headD "").splitOn "-"
  { first := hexNumber (ends.headD "")
    last := hexNumber (ends.getLastD "")
    step := if domain.length = 1 then 1 else 2
    value := match sides with
      | [_, value] => if value.isEmpty then [] else (value.splitOn ".").map hexNumber
      | _ => [] }

/-- The rows of the lines. -/
def readTable (lines : List String) : List Row :=
  lines.flatMap fun line => (line.splitOn " ").map readRow

/-- Does the row hold the code point? -/
def Row.holds (row : Row) (n : Nat) : Bool :=
  row.first ≤ n && n ≤ row.last && (n - row.first) % row.step = 0

/-- The value of a code point of the row. -/
def Row.valueAt (row : Row) (n : Nat) : List Nat :=
  match row.value with
  | [v] => [v + (n - row.first)]
  | vs => vs

/-- A unified ideograph of the first block. It stands for itself, combines with nothing and is
    written from left to right, as all those that no row is about. -/
def isIdeograph (c : Char) : Bool := 0x4E00 ≤ c.toNat && c.toNat ≤ 0x9FFF

/-- Is the character in some row? -/
def inTable (table : List Row) (c : Char) : Bool :=
  !isIdeograph c && table.any (·.holds c.toNat)

/-- The first row that holds the character. -/
def row? (table : List Row) (c : Char) : Option Row :=
  if isIdeograph c then none else table.find? (·.holds c.toNat)

/-- The characters that the table gives for a character. -/
def lookUp? (table : List Row) (c : Char) : Option (List Char) :=
  (row? table c).map fun row => (row.valueAt c.toNat).map Char.ofNat

end AmpMarkup.Unicode
