import AmpMarkup.Document.Edit
import AmpMarkup.Markup.Token

namespace AmpMarkup.Markup

/-!
# Documents from markup

Tokens are added one after the other below the innermost open element. A start tag opens its
element, unless it closes itself or the element is void; an end tag closes the innermost open
element of that name together with all that was opened inside it, and is ignored if there is none.

* `Reading` — the document so far and the open elements, innermost first.
* `Reading.add` — one token.
* `readMarkup` — the document of a text.
-/

/-- A document under construction. -/
structure Reading where
  document : Document
  /-- The open elements, innermost first. -/
  opened : List NodeId
  deriving Repr

namespace Reading

/-- Nothing has been read. -/
def start : Reading := ⟨.empty, []⟩

/-- The node that gets the next child. -/
def parent (r : Reading) : NodeId := r.opened.headD Document.root

/-- A new node of this kind as last child of the innermost open element. -/
def addNode (r : Reading) (kind : NodeKind) : Reading :=
  let node := r.document.nextId
  { r with document := (Edit.appendChild r.parent node).exec (r.document.push kind) }

/-- The open elements without the innermost one called `name` and all inside it. -/
def openedAfterEnd (r : Reading) (name : String) : List NodeId :=
  match r.opened.findIdx? (r.document.isElementNamed · name) with
  | some i => r.opened.drop (i + 1)
  | none => r.opened

/-- The reading after one more token. -/
def add (r : Reading) : Token → Reading
  | .text content => r.addNode (.text content)
  | .comment content => r.addNode (.comment content)
  | .declaration => r
  | .endTag name => { r with opened := r.openedAfterEnd name }
  | .startTag name attributes selfClosing =>
    let node := r.document.nextId
    let r := r.addNode (.ofElement name attributes)
    if selfClosing || isVoid name then r else { r with opened := node :: r.opened }

end Reading

/-- The document whose root holds what `s` says. -/
def readMarkup (s : String) : Document := ((tokens s.toList).foldl Reading.add .start).document

end AmpMarkup.Markup
