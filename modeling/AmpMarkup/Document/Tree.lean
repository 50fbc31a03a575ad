import AmpMarkup.Document.Basic

namespace AmpMarkup

/-!
# Trees

A document keeps its nodes in slots and refers to them by handles. What it shows of a node is a
tree, which has no handles any more.

* `Tree` — a node with the trees of its children.
* `Document.tree d n` — the tree of `n` in `d`.
* `Tree.size` — the number of nodes; `Tree.mapAttributes` — the same tree with other attributes at
  its top.
-/

/-- A node with the trees of its children. -/
inductive Tree where
  | node (kind : NodeKind) (children : List Tree)
  deriving Repr, Inhabited

namespace Tree

/-- What the node at the top is. -/
def kind : Tree → NodeKind
  | node kind _ => kind

/-- The trees directly below the top. -/
def children : Tree → List Tree
  | node _ children => children

/-- The tree with the attributes of the element at its top changed. -/
def mapAttributes (f : Attributes → Attributes) : Tree → Tree
  | node kind children => node (kind.mapAttributes f) children

mutual

/-- The number of nodes. -/
def size : Tree → Nat
  | node _ children => 1 + sizeAll children

/-- The number of nodes of several trees. -/
def sizeAll : List Tree → Nat
  | [] => 0
  | t :: rest => t.size + sizeAll rest

end

end Tree

namespace Document

/-- The tree of `n`, down to the given depth; a node that is not live looks like an empty
    document. -/
def treeUpTo (d : Document) : Nat → NodeId → Tree
  | 0, n => .node ((d.kind? n).getD .document) []
  | depth + 1, n => .node ((d.kind? n).getD .document) ((d.children n).map (d.treeUpTo depth))

/-- The tree of `n`. Where no node is below itself no tree is deeper than there are slots. -/
def tree (d : Document) (n : NodeId) : Tree := d.treeUpTo d.size n

end Document

end AmpMarkup
