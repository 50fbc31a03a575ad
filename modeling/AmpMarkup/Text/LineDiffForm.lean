namespace AmpMarkup.Text

/-!
# The form of a comparison of lines

What a report on two lists of lines is to show, without the search and the arithmetic that make it.

* `IsCommonBeginning p l r` — the longest beginning that the two lists share.
* `DiffRow` — one side of one line that is shown, `DiffRow.Before` their order.
* `DiffRow.IsShown` — the rows of a report on lists that part after so many lines.
* `DiffRow.write`, `writeDiffHeader`, `writeLengths` — how the parts of a report are written, each
  with a line break at its end.
-/

/-- The longest beginning that the two lists share. -/
structure IsCommonBeginning (p l r : List String) : Prop where
  left : p <+: l
  right : p <+: r
  longest (q : List String) : q <+: l → q <+: r → q.length ≤ p.length

/-- The two lists that are compared. -/
inductive DiffSide where
  | expected
  | actual
  deriving DecidableEq, Repr

/-- The lines of one of the two lists. -/
def DiffSide.lines (expected actual : List String) : DiffSide → List String
  | .expected => expected
  | .actual => actual

/-- One side of a line that is shown. -/
structure DiffRow where
  /-- Lines are counted from one. -/
  line : Nat
  side : DiffSide
  marked : Bool
  /-- The line itself; none for a list that has no such line. -/
  content? : Option String
  deriving DecidableEq, Repr

namespace DiffRow

/-- The order of a report: line by line, and of each line the expected side first. -/
def Before (a b : DiffRow) : Prop :=
  a.line < b.line ∨ a.line = b.line ∧ a.side = .expected ∧ b.side = .actual

/-- A row of the report on lists that have `k` lines in common before they part. -/
structure IsShown (expected actual : List String) (k : Nat) (row : DiffRow) : Prop where
  /-- The row shows a line of the longer list. -/
  line_pos : 1 ≤ row.line
  line_le : row.line ≤ max expected.length actual.length
  /-- It is at most two lines away from the line on which the lists part. -/
  above : k + 1 ≤ row.line + 2
  below : row.line ≤ k + 1 + 2
  content_eq : row.content? = (row.side.lines expected actual)[row.line - 1]?
  marked_iff : row.marked = true ↔ row.line = k + 1

/-- The marker, the number of the line in four places or more, the side and what it has there. -/
def write (row : DiffRow) : String :=
  (if row.marked then ">" else " ") ++ " "
    ++ String.ofList ((toString row.line).toList.leftpad 4 ' ')
    ++ (match row.side with
      | .expected => "  expected: "
      | .actual => "    actual: ")
    ++ row.content?.getD "<missing>" ++ "\n"

end DiffRow

/-- Announces the line on which two lists part, and which lines are shown. -/
def writeDiffHeader (line first last : Nat) : String :=
  "first mismatch at line " ++ toString line ++ " (showing " ++ toString first ++ "..="
    ++ toString last ++ "):\n"

/-- The lengths of the two lists. -/
def writeLengths (expected actual : List String) : String :=
  "expected " ++ toString expected.length ++ " lines, actual " ++ toString actual.length
    ++ " lines\n"

end AmpMarkup.Text
