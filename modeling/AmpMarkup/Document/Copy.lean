import AmpMarkup.Document.Edit
import AmpMarkup.Document.Html
import AmpMarkup.Document.Outline
import AmpMarkup.Document.Preorder
import Mathlib.Data.List.Forall2

namespace AmpMarkup.Document

/-!
# Copies of subtrees

What makes one node the copy of another one is said from node to node: they are the same, and so are
their children, one by one.

* `Mirrors d d' n m` — `m` shows in `d'` what `n` shows in `d`, at every depth.
* `DeepCopy d d' n copy` — `d'` is `d` with a copy of `n`, in new slots, and nothing else.
-/

/-- The node `m` of `d'` is what the node `n` of `d` is, and its children are what the children of
    `n` are, one by one and in order. -/
inductive Mirrors (d d' : Document) : NodeId → NodeId → Prop where
  | node {n m : NodeId} : d.contains n = true → d'.kind? m = d.kind? n →
    List.Forall₂ (Mirrors d d') (d.children n) (d'.children m) → Mirrors d d' n m

/-- `d'` is `d` with a detached copy of `n` and of all that is below it. -/
structure DeepCopy (d d' : Document) (n copy : NodeId) : Prop where
  copy_eq : copy = d.nextId
  detached : d'.parent? copy = none
  mirrors : Mirrors d d' n copy
  /-- There are as many new slots as nodes to be copied. -/
  size_eq : d'.size = d.size + (1 + (d.descendants n).length)
  /-- The nodes of the copy are in the new slots, one in each. -/
  fresh : ((copy :: d'.descendants copy).map NodeId.index).Perm
    (List.range' d.size (1 + (d.descendants n).length))
  /-- Every old slot is the same as before, whether it is in use or not. -/
  old (i : Nat) : i < d.size → d'.slots[i]? = d.slots[i]?
  html : d'.toHtml copy = d.toHtml n
  outline : d'.outline copy = d.outline n

end AmpMarkup.Document
