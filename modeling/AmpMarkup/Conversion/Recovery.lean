import AmpMarkup.Conversion.History
import AmpMarkup.Document.Restore

namespace AmpMarkup

/-!
# Between taking children out and putting them back

A conversion that fails half-way has done away with some of the children it took out, and has put
others in other places.

* `Conversion.Action.Disposes` — actions on such children that leave their former parent alone.
* `Document.LeftInPlace` — whatever has been done, the former parent is where it was, and is bare.
-/

namespace Conversion

/-- The action discards or detaches one of `nodes`, or attaches it under a node other than `n`. It
    does not put anything in the place of `n`. -/
inductive Action.Disposes (n : NodeId) (nodes : List NodeId) : Action → Prop where
  | discard {c : NodeId} : c ∈ nodes → Disposes n nodes (.discard c)
  | detach {c : NodeId} : c ∈ nodes → Disposes n nodes (.detach c)
  | removeChild {p c : NodeId} : c ∈ nodes → Disposes n nodes (.removeChild p c)
  | appendChild {p c : NodeId} : c ∈ nodes → p ≠ n → Disposes n nodes (.appendChild p c)
  | insertBefore {p c before : NodeId} : c ∈ nodes → p ≠ n →
    Disposes n nodes (.insertBefore p c before)
  | replaceChild {p c old : NodeId} : c ∈ nodes → p ≠ n → old ≠ n →
    Disposes n nodes (.replaceChild p c old)

end Conversion

/-- `n` is live and has no children in `d'`, and has the same ancestors as in `d`. -/
structure Document.LeftInPlace (d d' : Document) (n : NodeId) : Prop where
  contains : d'.contains n = true
  bare : d'.children n = []
  lineage_eq : d'.lineage n = d.lineage n

end AmpMarkup
