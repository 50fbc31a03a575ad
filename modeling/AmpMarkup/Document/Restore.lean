import AmpMarkup.Document.Fallback
import AmpMarkup.Document.Relink
import AmpMarkup.Document.WellFormed

namespace AmpMarkup

/-!
# Taking children out and putting them back

* `Document.isFree` — a node that can be put back.
* `Edit.Empties` — a node emptied child by child, with as many steps as it takes.
* `Document.PutBack` — a document in which the free nodes of a list are back under their node.
-/

namespace Document

/-- A live node without a parent. -/
def isFree (d : Document) (n : NodeId) : Bool := d.contains n && (d.parent? n).isNone

/-- `d'` is `d` with those of `nodes` that are free as the children of `n`, in their order. All
    other links are the same. -/
structure PutBack (d d' : Document) (n : NodeId) (nodes : List NodeId) : Prop where
  wellFormed : d'.WellFormed
  children_eq : d'.children n = nodes.filter d.isFree
  children_other (m : NodeId) : m ≠ n → d'.children m = d.children m
  relinked : Relinked d d' [(n, nodes.filter d.isFree)]
    ((nodes.filter d.isFree).map fun c => (c, some n))

end Document

namespace Edit

/-- The first child of `n` is removed again and again until there is none. The nodes removed are
    listed in order, and `d'` is what is left of `d`. -/
inductive Empties (n : NodeId) : Document → List NodeId → Document → Prop where
  | done {d : Document} : d.firstChild? n = none → Empties n d [] d
  | step {d d₁ d' : Document} {first c : NodeId} {removed : List NodeId} :
    d.firstChild? n = some first → (removeChild n first).run d = .ok c d₁ →
      Empties n d₁ removed d' → Empties n d (c :: removed) d'

end Edit

end AmpMarkup
