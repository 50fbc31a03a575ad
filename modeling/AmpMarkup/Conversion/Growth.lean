import Mathlib.Algebra.Order.Ring.Nat
import AmpMarkup.Conversion.Verdict

namespace AmpMarkup

/-!
# How much a conversion adds

The replacement of an audio element holds the children of the element and, in an island, a copy of
the element with copies of the children. Where audio elements stand inside one another the copies
are copied again.

* `Document.connected` — the nodes that hang below the root, the root included.
* `Conversion.convertibleAbove` — how often a node is copied.
* `Conversion.growth` — the number of nodes that one connected node is turned into.
-/

/-- The connected nodes, in the order of their slots. -/
def Document.connected (d : Document) : List NodeId :=
  ((List.range d.size).map NodeId.mk).filter d.isConnected

namespace Conversion

/-- The number of convertible elements among the ancestors of `x`. -/
def convertibleAbove (d : Document) (x : NodeId) : Nat :=
  (d.lineage x).tail.countP (isConvertible d)

/-- The number of nodes that `x` is turned into if nothing is dropped: an audio element becomes
    three, and each convertible ancestor copies what is below it once. -/
def growth (d : Document) (x : NodeId) : Nat :=
  (if isConvertible d x then 3 else 1) * 2 ^ convertibleAbove d x

end Conversion

end AmpMarkup
