import AmpMarkup.Document.Basic

namespace AmpMarkup.Document

/-!
# The order of a document

* `descendants d n` — all that is below `n`, each node before what is below it and children in
  order.
* `elementsNamed d name` — the connected elements of a name, in that order.
-/

/-- Visits the nodes of the list, each followed by what is below it. One step visits one node. -/
def preorder (d : Document) : Nat → List NodeId → List NodeId
  | 0, _ | _, [] => []
  | fuel + 1, n :: rest => n :: preorder d fuel (d.children n ++ rest)

/-- The nodes below `n` in document order. Where no node is below itself there are fewer of them
    than slots. -/
def descendants (d : Document) (n : NodeId) : List NodeId := d.preorder d.size (d.children n)

/-- The elements below the root that are called `name` in any case, in document order. -/
def elementsNamed (d : Document) (name : String) : List NodeId :=
  (d.descendants root).filter (d.isElementNamed · name)

end AmpMarkup.Document
