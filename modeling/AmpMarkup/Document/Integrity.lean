import AmpMarkup.Document.Edit

namespace AmpMarkup.Document

/-!
# Checking the links of a document

The check walks down from the root and stops at the first fault. It makes sense of any arena,
however damaged.

* `childFault?` — what is wrong with one entry of a list of children.
* `checkIntegrity d` — succeeds if all links below the root agree.
-/

/-- The fault of the child `c` in the list of `n`, if it has one: it has to be live and to have `n`
    as its parent. -/
def childFault? (d : Document) (n c : NodeId) : Option EditError :=
  match d.slot? c with
  | none => some (.integrity n (.danglingChild c))
  | some s => if s.parent? = some n then none else some (.integrity c (.parentMismatch s.parent? n))

/-- Checks the nodes still to be visited; `seen` marks the slots that have been. Every step but the
    last marks a further slot. -/
def checkFrom (d : Document) : Nat → Array Bool → List NodeId → Except EditError Unit
  | 0, _, _ | _, _, [] => return
  | fuel + 1, seen, n :: rest => do
    let some slot := d.slot? n | throw (.missingNode n)
    if seen.getD n.index false then throw (.integrity n .reachedTwice)
    if !slot.kind.allowsChildren && !slot.children.isEmpty then
      throw (.integrity n .leafWithChildren)
    if let some fault := slot.children.findSome? (d.childFault? n) then throw fault
    checkFrom d fuel (seen.setIfInBounds n.index true) (slot.children.reverse ++ rest)

/-- All that is reached from the root is live and reached once, and links agree in both
    directions. -/
def checkIntegrity (d : Document) : Except EditError Unit :=
  d.checkFrom (d.size + 1) (Array.replicate d.size false) [root]

end AmpMarkup.Document
