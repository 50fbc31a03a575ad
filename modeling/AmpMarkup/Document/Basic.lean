import AmpMarkup.Document.Attributes

namespace AmpMarkup

open AmpMarkup.Text

/-!
# Documents

A document is an arena of slots. A node is the index of its slot: it is handed out once and never
again, so a handle to a node that has been discarded stays harmless for ever. Links are kept on
both sides, as a parent and as a list of children, and nothing in the type forces the two to
agree; that they do is a theorem about the edits.

* `NodeKind` — what a node is: the document, an element, a text or a comment.
* `Slot`, `Document` — the arena; slot 0 is the document node, `Document.root`.
* `Document.slot?` — the slot of a live node, from which every reading below is made: a node that
  is unknown or discarded has no kind, no parent and no children.
* `Document.lineage` — a node and its ancestors, nearest first, and with it `isConnected` and
  `isAncestor`.
-/

/-- A handle to a node: the index of its slot. An index has 32 bits in the program, which therefore
    hands out a new one for each node as long as there are fewer than `2 ^ 32` slots, discarded ones
    included; here it is unbounded, so that this never ends. -/
structure NodeId where
  index : Nat
  deriving DecidableEq, Repr, Inhabited, Hashable

/-- How a handle appears in messages. -/
def NodeId.label (n : NodeId) : String := "NodeId(" ++ toString n.index ++ ")"

/-- What a node is. -/
inductive NodeKind where
  | document
  | element (name : String) (attributes : Attributes)
  | text (content : String)
  | comment (content : String)
  deriving DecidableEq, Repr, Inhabited

namespace NodeKind

/-- An element; its name is kept in ASCII lower case. -/
def ofElement (name : String) (attributes : Attributes) : NodeKind :=
  .element (fold name) attributes

/-- Only the document and elements have children. -/
def allowsChildren : NodeKind → Bool
  | document | element .. => true
  | text _ | comment _ => false

/-- The name of an element. -/
def tagName? : NodeKind → Option String
  | element name _ => some name
  | _ => none

/-- The attributes of an element. -/
def attributes? : NodeKind → Option Attributes
  | element _ attributes => some attributes
  | _ => none

/-- The same node with the attributes changed, if it is an element. -/
def mapAttributes (f : Attributes → Attributes) : NodeKind → NodeKind
  | element name attributes => element name (f attributes)
  | k => k

/-- An element called `name` in any case. -/
def isNamed (k : NodeKind) (name : String) : Bool := k.tagName?.any (sameFold · name)

end NodeKind

/-- One place of the arena. -/
structure Slot where
  kind : NodeKind
  parent? : Option NodeId := none
  children : List NodeId := []
  /-- False once the node has been discarded. -/
  live : Bool := true
  deriving DecidableEq, Repr, Inhabited

/-- A tree of nodes, together with the nodes that are detached from it. -/
structure Document where
  slots : Array Slot
  deriving DecidableEq, Repr, Inhabited

namespace Document

/-- The document node. -/
def root : NodeId := ⟨0⟩

/-- A document node without children. -/
def empty : Document := ⟨#[{ kind := .document }]⟩

/-- The number of slots, discarded ones included; the next node gets this index. -/
def size (d : Document) : Nat := d.slots.size

/-- The slot of a live node. -/
def slot? (d : Document) (n : NodeId) : Option Slot := d.slots[n.index]?.filter (·.live)

/-- Is `n` a live node? -/
def contains (d : Document) (n : NodeId) : Bool := (d.slot? n).isSome

/-! ### Reading a node -/

/-- What `n` is. -/
def kind? (d : Document) (n : NodeId) : Option NodeKind := (d.slot? n).map (·.kind)

/-- The node that `n` hangs under. -/
def parent? (d : Document) (n : NodeId) : Option NodeId := (d.slot? n).bind (·.parent?)

/-- The children of `n` in order; none for a node that is not live. -/
def children (d : Document) (n : NodeId) : List NodeId := ((d.slot? n).map (·.children)).getD []

/-- The first in the list of children. -/
def firstChild? (d : Document) (n : NodeId) : Option NodeId := (d.children n).head?

/-- The child after `n` in the list of its parent. -/
def nextSibling? (d : Document) (n : NodeId) : Option NodeId := do
  let siblings := d.children (← d.parent? n)
  let i ← siblings.idxOf? n
  siblings[i + 1]?

/-- The name of `n`, if it is an element. -/
def tagName? (d : Document) (n : NodeId) : Option String := (d.kind? n).bind (·.tagName?)

/-- Is `n` an element called `name` in any case? -/
def isElementNamed (d : Document) (n : NodeId) (name : String) : Bool :=
  (d.kind? n).any (·.isNamed name)

/-- The attributes of `n`, if it is an element. -/
def attributes? (d : Document) (n : NodeId) : Option Attributes :=
  (d.kind? n).bind (·.attributes?)

/-- The value of one attribute, whose name may be given in any case. -/
def attribute? (d : Document) (n : NodeId) (name : String) : Option String :=
  (d.attributes? n).bind (·.get? name)

/-- Is there a value for that name? -/
def hasAttribute (d : Document) (n : NodeId) (name : String) : Bool :=
  (d.attributes? n).any (·.contains name)

/-! ### Ancestors -/

/-- At most `fuel` steps along parent links, starting with `n` itself. -/
def climb (d : Document) : Nat → NodeId → List NodeId
  | 0, _ => []
  | fuel + 1, n =>
    n :: match d.parent? n with
      | none => []
      | some p => climb d fuel p

/-- `n`, its parent, its parent's parent and so on. Without a cycle in the parent links there are at
    most as many of these as slots, apart from `n` itself if it is not live. -/
def lineage (d : Document) (n : NodeId) : List NodeId := d.climb (d.size + 1) n

/-- Is the document node reached from `n` along parent links? -/
def isConnected (d : Document) (n : NodeId) : Bool := (d.lineage n).contains root

/-- Is `a` reached from `n` by one or more parent links? -/
def isAncestor (d : Document) (a n : NodeId) : Bool := (d.lineage n).tail.contains a

end Document

end AmpMarkup
