import AmpMarkup.Document.Preorder

namespace AmpMarkup.Document

/-!
# What edits of links change

An edit of links changes a few lists of children and a few parents. What it changes is written down
here slot by slot, for slots in use and for those that have been given up, so that nothing is left
open about any other slot.

* `Relinked d d' lists parents` — `d'` is `d` with these lists of children and these parents.
* `Spliced d d' p x xs parents` — the same, where one child gives way to others.
* `Pruned d d' n` — `d'` is `d` with `n` and all that is below it given up.
-/

/-- `d'` is `d`, but the nodes in `lists` have these lists of children, and the nodes in `parents`
    have these parents. -/
structure Relinked (d d' : Document) (lists : List (NodeId × List NodeId))
    (parents : List (NodeId × Option NodeId)) : Prop where
  size_eq : d'.size = d.size
  slot (m : NodeId) (s : Slot) : d.slots[m.index]? = some s →
    d'.slots[m.index]? = some { s with
      children := (lists.lookup m).getD s.children
      parent? := (parents.lookup m).getD s.parent? }

/-- `d'` is `d`, but in the list of `p` the nodes of `xs` stand in the place of `x`, between the
    same children as before, and the nodes in `parents` have these parents. -/
def Spliced (d d' : Document) (p x : NodeId) (xs : List NodeId)
    (parents : List (NodeId × Option NodeId)) : Prop :=
  ∃ pre post, d.children p = pre ++ x :: post ∧ Relinked d d' [(p, pre ++ xs ++ post)] parents

/-- `d'` is `d`, but `n` and all that is below it is out of use, without links, and `n` is missing
    in the list of its parent. -/
structure Pruned (d d' : Document) (n : NodeId) : Prop where
  size_eq : d'.size = d.size
  gone (m : NodeId) (s : Slot) : m = n ∨ m ∈ d.descendants n → d.slots[m.index]? = some s →
    d'.slots[m.index]? = some { s with live := false, parent? := none, children := [] }
  parent (p : NodeId) (s : Slot) : d.parent? n = some p → d.slots[p.index]? = some s →
    ∃ pre post, s.children = pre ++ n :: post ∧
      d'.slots[p.index]? = some { s with children := pre ++ post }
  elsewhere (m : NodeId) (s : Slot) : m ≠ n → m ∉ d.descendants n → d.parent? n ≠ some m →
    d.slots[m.index]? = some s → d'.slots[m.index]? = some s

end AmpMarkup.Document
