import AmpMarkup.Unicode.CombiningClass
import AmpMarkup.Unicode.Decomposition

namespace AmpMarkup.Unicode

open AmpMarkup.Text

/-!
# Normalization form C

A text is decomposed, its marks are put in order, and it is composed again.

* `reorder` — within each run of characters of a class other than 0, a stable sort by class.
* `compose` — puts each character together with the last starter before it, unless a character
  between them is in the way.
* `normalize` — the composed form; a text of ASCII is in it already.
-/

/-- Puts a combining character behind the last one that may stay before it. The run is given from
    its end. -/
def insertMark (c : Char) : List Char → List Char
  | [] => [c]
  | m :: run =>
    if combiningClass m > combiningClass c ∧ combiningClass c ≠ 0 then m :: insertMark c run
    else c :: m :: run

/-- The text with its marks in order; `done` is what has been ordered, from its end. -/
def reorderOnto (done : List Char) : List Char → List Char
  | [] => done.reverse
  | c :: rest => reorderOnto (insertMark c done) rest

/-- Every run of marks in the order of their classes. -/
def reorder (s : List Char) : List Char := reorderOnto [] s

/-- Composes the rest of a text onto the last starter. `between` are the characters since then
    that did not compose, from their end; a character is blocked by one of its own class or a
    higher one. -/
def composeOnto (starter : Char) (between : List Char) : List Char → List Char
  | [] => starter :: between.reverse
  | c :: rest =>
    let blocked :=
      match between with
      | [] => false
      | b :: _ => combiningClass b = 0 || combiningClass b ≥ combiningClass c
    match if blocked then none else composePair? starter c with
    | some composed => composeOnto composed between rest
    | none =>
      if combiningClass c = 0 then starter :: (between.reverse ++ composeOnto c [] rest)
      else composeOnto starter (c :: between) rest

/-- Composes a text; marks before the first starter stay. -/
def compose (s : List Char) : List Char :=
  let leading := s.takeWhile fun c => combiningClass c ≠ 0
  match s.dropWhile fun c => combiningClass c ≠ 0 with
  | [] => leading
  | starter :: rest => leading ++ composeOnto starter [] rest

/-- Normalization form C. -/
def normalize (s : List Char) : List Char :=
  if s.all isAscii then s else compose (reorder (s.flatMap decomposeChar))

end AmpMarkup.Unicode
