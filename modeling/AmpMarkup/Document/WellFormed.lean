import AmpMarkup.Document.Basic

namespace AmpMarkup.Document

/-!
# Well-formed documents

Nothing in the type of documents makes the two sides of a link agree. `WellFormed` says that they
do, for all nodes, whether they hang below the root or not.
-/

/-- `p` is the parent of `n`. -/
def IsParent (d : Document) (n p : NodeId) : Prop := d.parent? n = some p

/-- The links of all slots agree, and no node is above itself. -/
structure WellFormed (d : Document) : Prop where
  /-- The root is a live document node. -/
  kind_root : d.kind? root = some .document
  /-- The root has no parent. -/
  parent_root : d.parent? root = none
  /-- No node is listed twice by its parent. -/
  nodup_children (n : NodeId) : (d.children n).Nodup
  /-- A node is listed by its parent, and by no other node. -/
  mem_children_iff (n p : NodeId) : n ∈ d.children p ↔ d.IsParent n p
  /-- Texts and comments have no children. -/
  children_leaf (n : NodeId) (k : NodeKind) :
    d.kind? n = some k → k.allowsChildren = false → d.children n = []
  /-- No node is reached from itself along parent links. -/
  acyclic (n : NodeId) : ¬ Relation.TransGen d.IsParent n n
  /-- A discarded slot keeps no links. -/
  discarded (s : Slot) : s ∈ d.slots → s.live = false → s.parent? = none ∧ s.children = []

end AmpMarkup.Document
