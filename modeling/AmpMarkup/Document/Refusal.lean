import AmpMarkup.Document.Edit

namespace AmpMarkup

open Document (root)

/-!
# Refusals of edits

For each edit that can fail, the conditions under which it does, in the order in which they are
looked at, each with the cause that is given. The conditions are readings of the document as it is
before the edit.

* `firstCause?` — the cause of the first condition that holds.
* `Document.attachCauses` — what forbids to put a node under another one; `insertCauses` and
  `replaceCauses` build on it.
* `Document.removeCauses`, `Document.moveCauses`, `Document.copyCauses`,
  `Document.attributeCauses` — what forbids the other edits.
-/

/-- The cause of the first condition that holds. -/
def firstCause? (causes : List (Bool × EditError)) : Option EditError :=
  (causes.find? Prod.fst).map Prod.snd

namespace Document

/-- What forbids to copy `n`. -/
def copyCauses (d : Document) (n : NodeId) : List (Bool × EditError) :=
  [(!d.contains n, .missingNode n)]

/-- What forbids to change the attributes of `n`. -/
def attributeCauses (d : Document) (n : NodeId) : List (Bool × EditError) :=
  [(!d.contains n, .missingNode n), ((d.attributes? n).isNone, .wrongNodeKind n)]

/-- What forbids to detach or to discard `n`. -/
def moveCauses (d : Document) (n : NodeId) : List (Bool × EditError) :=
  [(n = root, .rootImmovable), (!d.contains n, .missingNode n)]

/-- What forbids to take `child` out of `parent`. -/
def removeCauses (d : Document) (parent child : NodeId) : List (Bool × EditError) :=
  [(!d.contains child, .missingNode child),
    (d.parent? child ≠ some parent, .notAChild parent child)]

/-- What forbids to put `child` under `parent`. -/
def attachCauses (d : Document) (parent child : NodeId) : List (Bool × EditError) :=
  [(!d.contains parent, .missingNode parent),
    (!(d.kind? parent).any (·.allowsChildren), .invalidParent parent),
    (child = root, .rootImmovable),
    (!d.contains child, .missingNode child),
    ((d.parent? child).isSome, .alreadyAttached child),
    (parent = child ∨ d.isAncestor child parent, .cycleDetected parent child)]

/-- What forbids to put `child` before the child `before` of `parent`. -/
def insertCauses (d : Document) (parent child before : NodeId) : List (Bool × EditError) :=
  d.attachCauses parent child ++ [(!(d.children parent).contains before, .notAChild parent before)]

/-- What forbids to put `new` at the position of the child `old` of `parent`. -/
def replaceCauses (d : Document) (parent new old : NodeId) : List (Bool × EditError) :=
  d.removeCauses parent old ++ d.attachCauses parent new

end Document

end AmpMarkup
