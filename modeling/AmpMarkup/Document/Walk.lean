import AmpMarkup.Document.Preorder

namespace AmpMarkup

/-!
# Walks over a document

The readings that go from node to node are computed with a bound on their steps. Here are the same
walks without one: a derivation is a walk that has come to its end, with what it has met.

* `Walk next start? ns` — `ns` is what is met by going on with `next` as long as it gives a node.
* `Document.Visits d pending ns` — the nodes waiting in `pending` are visited one after the other,
  each before its children, which are put in front of the rest.
* `Document.Climbs d n found` — the way up from `n` ends at the root, or without having met it.
-/

/-- Going on with `next` from a start, as long as it gives a node, meets the nodes of the list. -/
inductive Walk (next : NodeId → Option NodeId) : Option NodeId → List NodeId → Prop where
  | stop : Walk next none []
  | step {n : NodeId} {ns : List NodeId} : Walk next (next n) ns → Walk next (some n) (n :: ns)

namespace Document

/-- The walk that visits the nodes of the first list, and all that is below them, meets the nodes of
    the second list. -/
inductive Visits (d : Document) : List NodeId → List NodeId → Prop where
  | done : Visits d [] []
  | visit {n : NodeId} {rest ns : List NodeId} :
    Visits d (d.children n ++ rest) ns → Visits d (n :: rest) (n :: ns)

/-- Whether the root is met on the way up from a node; the way ends there, or at a node without a
    parent. -/
inductive Climbs (d : Document) : NodeId → Bool → Prop where
  | root : Climbs d root true
  | top {n : NodeId} : n ≠ root → d.parent? n = none → Climbs d n false
  | up {n p : NodeId} {found : Bool} :
    n ≠ root → d.parent? n = some p → Climbs d p found → Climbs d n found

end Document

end AmpMarkup
