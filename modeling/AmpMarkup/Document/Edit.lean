import AmpMarkup.Document.Basic

/-- The state that a computation leaves behind, whether it succeeds or fails. -/
def EStateM.exec {ε σ α : Type} (x : EStateM ε σ α) (s : σ) : σ :=
  match x.run s with
  | .ok _ s' | .error _ s' => s'

namespace AmpMarkup

open AmpMarkup.Text

/-!
# Edits of a document

An edit takes a document to a document and may fail; the document it leaves behind when it fails is
part of its meaning, so `Edit` keeps the state on both sides. Each edit first checks all that it
needs and changes the document only then.

* `EditError` — the causes, with their wording in `EditError.message`.
* `Edit.createElement`, `Edit.createText`, `Edit.createComment` — new detached nodes.
* `Edit.appendChild`, `Edit.insertBefore`, `Edit.replaceChild` — attach a detached node;
  `Edit.ensureAttachable` is the common condition.
* `Edit.removeChild`, `Edit.detach` — take a node out of its parent; it stays usable.
* `Edit.discard` — free a node with all that is below it.
* `Edit.cloneNode` — a copy of a node, or of the whole subtree, in new slots.
* `Edit.setAttribute`, `Edit.setAttributes`, `Edit.removeAttribute` — attributes of an element.
-/

/-! ### Causes of failure -/

/-- What is wrong with the links around a node. -/
inductive LinkFault where
  /-- The node is met a second time on the way down from the root. -/
  | reachedTwice
  /-- A text or a comment has children. -/
  | leafWithChildren
  /-- A child is not a live node. -/
  | danglingChild (child : NodeId)
  /-- The node is listed by `lister` but has another parent, or none. -/
  | parentMismatch (parent? : Option NodeId) (lister : NodeId)
  deriving DecidableEq, Repr

namespace LinkFault

/-- The fault in words. -/
def message : LinkFault → String
  | reachedTwice => "reachable more than once"
  | leafWithChildren => "leaf node has children"
  | danglingChild child => "dangling child " ++ child.label
  | parentMismatch none lister => "parent link None does not match " ++ lister.label
  | parentMismatch (some p) lister =>
    "parent link Some(" ++ p.label ++ ") does not match " ++ lister.label

end LinkFault

/-- Why an operation on a document fails. -/
inductive EditError where
  /-- The node does not exist or has been discarded. -/
  | missingNode (node : NodeId)
  /-- A text or a comment was to get a child. -/
  | invalidParent (node : NodeId)
  /-- A node that has a parent was to be attached. -/
  | alreadyAttached (node : NodeId)
  /-- `child` is not among the children of `parent`. -/
  | notAChild (parent child : NodeId)
  /-- `child` is `parent` or one of its ancestors. -/
  | cycleDetected (parent child : NodeId)
  /-- An attribute was to be changed on a node that is no element. -/
  | wrongNodeKind (node : NodeId)
  /-- The document node was to be moved or discarded. -/
  | rootImmovable
  /-- The links around a node contradict each other. -/
  | integrity (node : NodeId) (fault : LinkFault)
  deriving DecidableEq, Repr

namespace EditError

/-- The error in words. -/
def message : EditError → String
  | missingNode n => "unknown or discarded node " ++ n.label
  | invalidParent n => "node " ++ n.label ++ " cannot have children"
  | alreadyAttached n => "node " ++ n.label ++ " already has a parent"
  | notAChild p c => "node " ++ c.label ++ " is not a child of " ++ p.label
  | cycleDetected p c => "attaching " ++ c.label ++ " under " ++ p.label ++ " would create a cycle"
  | wrongNodeKind n => "node " ++ n.label ++ " is not an element"
  | rootImmovable => "the document root cannot be moved or discarded"
  | integrity n fault => "tree integrity violated at " ++ n.label ++ ": " ++ fault.message

end EditError

/-- A computation that reads and changes a document and may fail. -/
abbrev Edit (α : Type) := EStateM EditError Document α

namespace Document

/-- The document with the slot of `n`, if there is one, changed by `f`. -/
def modifySlot (d : Document) (n : NodeId) (f : Slot → Slot) : Document :=
  ⟨d.slots.modify n.index f⟩

/-- The document with one more slot. -/
def push (d : Document) (kind : NodeKind) : Document := ⟨d.slots.push { kind }⟩

/-- The handle that the next new node gets. -/
def nextId (d : Document) : NodeId := ⟨d.size⟩

end Document

namespace Edit

open Document (root)

/-- The same edit with `error` in place of its own errors. -/
def orThrow {ε α : Type} (e : Edit α) (error : ε) : EStateM ε Document α :=
  e.adaptExcept fun _ => error

/-- Goes on after a failure, from the document that the failing edit left behind. -/
def attempt (e : Edit Unit) : Edit Unit := tryCatch e fun _ => return

/-! ### Single slots -/

/-- The slot of `n`, which has to be live. -/
def slot (n : NodeId) : Edit Slot := do
  match (← get).slot? n with
  | some s => return s
  | none => throw (.missingNode n)

/-- Changes the slot of `n`, which has to be live. -/
def modifySlot (n : NodeId) (f : Slot → Slot) : Edit Unit := do
  if (← get).contains n then modify (·.modifySlot n f) else throw (.missingNode n)

/-- A new detached node. -/
def create (kind : NodeKind) : Edit NodeId :=
  modifyGet fun d => (d.nextId, d.push kind)

/-- A new detached element. -/
def createElement (name : String) (attributes : Attributes := .empty) : Edit NodeId :=
  create (.ofElement name attributes)

/-- A new detached text. -/
def createText (content : String) : Edit NodeId := create (.text content)

/-- A new detached comment. -/
def createComment (content : String) : Edit NodeId := create (.comment content)

/-! ### Attributes -/

/-- Changes the attributes of the element `n`. -/
def modifyAttributes (n : NodeId) (f : Attributes → Attributes) : Edit Unit := do
  match (← slot n).kind with
  | .element .. => modifySlot n fun s => { s with kind := s.kind.mapAttributes f }
  | _ => throw (.wrongNodeKind n)

/-- Gives an attribute of `n` a value, whether or not it had one. -/
def setAttribute (n : NodeId) (name value : String) : Edit Unit :=
  modifyAttributes n (·.set name value)

/-- Gives `n` these attributes in place of all others. -/
def setAttributes (n : NodeId) (attributes : Attributes) : Edit Unit :=
  modifyAttributes n fun _ => attributes

/-- Removes an attribute and gives the value it had. -/
def removeAttribute (n : NodeId) (name : String) : Edit (Option String) := do
  let value? := (← get).attribute? n name
  modifyAttributes n (·.erase name)
  return value?

/-! ### Attaching -/

/-- `child` may become a child of `parent`: `parent` is a live node that takes children, and `child`
    is a live node other than the root, without a parent, and not above `parent`. -/
def ensureAttachable (parent child : NodeId) : Edit Unit := do
  if !(← slot parent).kind.allowsChildren then throw (.invalidParent parent)
  if child = root then throw .rootImmovable
  if (← slot child).parent?.isSome then throw (.alreadyAttached child)
  if parent = child ∨ (← get).isAncestor child parent then throw (.cycleDetected parent child)

/-- Makes `child` the last child of `parent` and `parent` the parent of `child`. -/
def link (parent child : NodeId) : Edit Unit := do
  modifySlot parent fun s => { s with children := s.children ++ [child] }
  modifySlot child fun s => { s with parent? := some parent }

/-- Puts `child` at the end of the children of `parent`. -/
def appendChild (parent child : NodeId) : Edit Unit := do
  ensureAttachable parent child
  link parent child

/-- Puts `child` directly before the child `before` of `parent`. -/
def insertBefore (parent child before : NodeId) : Edit Unit := do
  ensureAttachable parent child
  match (← slot parent).children.idxOf? before with
  | none => throw (.notAChild parent before)
  | some i =>
    modifySlot parent fun s => { s with children := s.children.insertIdx i child }
    modifySlot child fun s => { s with parent? := some parent }

/-! ### Detaching -/

/-- Takes `child` out of `parent` and gives it back; it can be attached again. -/
def removeChild (parent child : NodeId) : Edit NodeId := do
  if (← slot child).parent? ≠ some parent then throw (.notAChild parent child)
  modifySlot parent fun s => { s with children := s.children.filter (· ≠ child) }
  modifySlot child fun s => { s with parent? := none }
  return child

/-- Takes `n` out of its parent, if it has one. -/
def detach (n : NodeId) : Edit Unit := do
  if n = root then throw .rootImmovable
  if let some parent := (← slot n).parent? then
    let _ ← removeChild parent n

/-- Puts `new` at the position of the child `old` of `parent`; `old` becomes detached and is given
    back. -/
def replaceChild (parent new old : NodeId) : Edit NodeId := do
  if (← slot old).parent? ≠ some parent then throw (.notAChild parent old)
  ensureAttachable parent new
  match (← slot parent).children.idxOf? old with
  | none => throw (.notAChild parent old)
  | some i =>
    modifySlot parent fun s => { s with children := s.children.set i new }
    modifySlot new fun s => { s with parent? := some parent }
    modifySlot old fun s => { s with parent? := none }
    return old

/-- Frees the nodes of the list and all that is below them. One step frees one node, so as many
    steps as there are slots are enough. -/
def freeAll : Nat → List NodeId → Edit Unit
  | 0, _ | _, [] => return
  | fuel + 1, n :: rest => do
    let children := (← slot n).children
    modifySlot n fun s => { s with live := false, parent? := none, children := [] }
    freeAll fuel (children ++ rest)

/-- Detaches `n` and frees its whole subtree. -/
def discard (n : NodeId) : Edit Unit := do
  detach n
  freeAll (← get).size [n]

/-! ### Copying -/

/-- Copies the nodes of the list as last children of `parentCopy`, and gives each with its copy. -/
def copyChildren (parentCopy : NodeId) : List NodeId → Edit (List (NodeId × NodeId))
  | [] => return []
  | child :: rest => do
    let copy ← create (← slot child).kind
    link parentCopy copy
    return (child, copy) :: (← copyChildren parentCopy rest)

/-- Copies what is below the first node of each pair to below the second. Of the children of one
    node the last is followed first. One step copies the children of one node, so as many steps as
    there were slots are enough. -/
def copyBelow : Nat → List (NodeId × NodeId) → Edit Unit
  | 0, _ | _, [] => return
  | fuel + 1, (n, copy) :: rest => do
    let pairs ← copyChildren copy (← slot n).children
    copyBelow fuel (pairs.reverse ++ rest)

/-- A new detached copy of `n`, with copies of all that is below it if `deep`. -/
def cloneNode (n : NodeId) (deep : Bool) : Edit NodeId := do
  let fuel := (← get).size
  let copy ← create (← slot n).kind
  if deep then copyBelow fuel [(n, copy)]
  return copy

end Edit

end AmpMarkup
