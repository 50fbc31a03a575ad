import AmpMarkup.Document.Integrity
import Mathlib.Logic.Relation

namespace AmpMarkup.Document

open Relation (ReflTransGen)

/-!
# What the check of the links decides

The links of an arena may be damaged in any way: lists of children may be shared, lead in circles
or name slots that do not exist. Whether the check passes is said here without the check, from node
to node; and the check itself is said without a bound on its steps.

* `Lists d p c`, `Hangs d n` — what is reached from the root along lists of children.
* `SoundAt d n` — the links of one node are in order.
* `Checks d seen stack r` — the walk that visits the nodes of `stack` ends with `r`.
-/

/-- `c` stands in the list of children that the slot of `p` holds, whether `p` is live or not. -/
def Lists (d : Document) (p c : NodeId) : Prop :=
  ∃ s, d.slots[p.index]? = some s ∧ c ∈ s.children

/-- `n` is the root, or it is reached from the root along lists of children. -/
def Hangs (d : Document) (n : NodeId) : Prop := ReflTransGen d.Lists root n

/-- The links of `n` are in order. -/
structure SoundAt (d : Document) (n : NodeId) : Prop where
  live : d.contains n = true
  /-- Only a node that takes children has some. -/
  leaf (k : NodeKind) : d.kind? n = some k → k.allowsChildren = false → d.children n = []
  nodup : (d.children n).Nodup
  /-- Every child is live and leads back to `n`. -/
  linked (c : NodeId) : c ∈ d.children n → d.contains c = true ∧ d.parent? c = some n
  not_root : root ∉ d.children n

/-- What is wrong with the slot `s` of `n`: it has children and should have none, or one of them has
    a fault. -/
def slotFault? (d : Document) (n : NodeId) (s : Slot) : Option EditError :=
  if !s.kind.allowsChildren && !s.children.isEmpty then some (.integrity n .leafWithChildren)
  else s.children.findSome? (d.childFault? n)

/-- The walk over the nodes still to be visited, with as many steps as it takes. A derivation is a
    run that ends, and every mark it reads is one of those in `seen`. -/
inductive Checks (d : Document) : Array Bool → List NodeId → Except EditError Unit → Prop where
  | done {seen : Array Bool} : Checks d seen [] (.ok ())
  | missing {seen : Array Bool} {n : NodeId} {rest : List NodeId} :
    d.slot? n = none → Checks d seen (n :: rest) (.error (.missingNode n))
  | again {seen : Array Bool} {n : NodeId} {rest : List NodeId} {s : Slot} :
    d.slot? n = some s → (hn : n.index < seen.size) → seen[n.index] = true →
      Checks d seen (n :: rest) (.error (.integrity n .reachedTwice))
  | faulty {seen : Array Bool} {n : NodeId} {rest : List NodeId} {s : Slot} {fault : EditError} :
    d.slot? n = some s → (hn : n.index < seen.size) → seen[n.index] = false →
      d.slotFault? n s = some fault → Checks d seen (n :: rest) (.error fault)
  | visit {seen : Array Bool} {n : NodeId} {rest : List NodeId} {s : Slot}
      {r : Except EditError Unit} :
    d.slot? n = some s → (hn : n.index < seen.size) → seen[n.index] = false →
      d.slotFault? n s = none →
      Checks d (seen.set n.index true hn) (s.children.reverse ++ rest) r →
      Checks d seen (n :: rest) r

end AmpMarkup.Document
