namespace AmpMarkup.Text

/-!
# Text — where two lists of lines part

The report names the first line on which the two lists differ and shows it with up to two lines
before and after it.

* `firstMismatch? l r` — the index of the first line that is not the same on both sides; a line
  that one side lacks differs from any line of the other.
* `diffWindow` — the half-open range of lines that is shown around that index.
* `lineDiff l r` — the whole report; its last line always gives the two lengths.
-/

/-- The index of the first position at which the lists do not hold the same line. -/
def firstMismatch? : List String → List String → Option Nat
  | [], [] => none
  | a :: as, b :: bs => if a = b then (firstMismatch? as bs).map (· + 1) else some 0
  | _, _ => some 0

/-- The first line that is shown around line `mismatch`, and the first that no longer is: two lines
    before and two after it, as far as the longer list, of `longest` lines, has them. -/
def diffWindow (mismatch longest : Nat) : Nat × Nat := (mismatch - 2, min (mismatch + 3) longest)

/-- `n` in decimal, padded with spaces on the left to four places. -/
def padNumber (n : Nat) : String :=
  let digits := toString n
  "".pushn ' ' (4 - digits.length) ++ digits

/-- The two sides of line `i` (counted from zero), marked `>` where they first differ. -/
def diffEntry (expected actual : List String) (mismatch i : Nat) : String :=
  let mark := if i = mismatch then ">" else " "
  let shown (lines : List String) := lines[i]?.getD "<missing>"
  let number := padNumber (i + 1)
  mark ++ " " ++ number ++ "  expected: " ++ shown expected ++ "\n"
    ++ mark ++ " " ++ number ++ "    actual: " ++ shown actual ++ "\n"

/-- The part of the report that stands before the two lengths; empty for equal lists. -/
def diffExcerpt (expected actual : List String) : String :=
  match firstMismatch? expected actual with
  | none => ""
  | some i =>
    let (start, stop) := diffWindow i (max expected.length actual.length)
    "first mismatch at line " ++ toString (i + 1) ++ " (showing " ++ toString (start + 1) ++ "..="
      ++ toString stop ++ "):\n"
      ++ String.join ((List.range' start (stop - start)).map (diffEntry expected actual i))

/-- A readable account of the first difference between two lists of lines. -/
def lineDiff (expected actual : List String) : String :=
  diffExcerpt expected actual ++ "expected " ++ toString expected.length ++ " lines, actual "
    ++ toString actual.length ++ " lines\n"

end AmpMarkup.Text
