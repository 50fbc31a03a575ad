import AmpMarkup.Document.Html
import AmpMarkup.Document.Outline
import AmpMarkup.Document.Tree

namespace AmpMarkup.Tree

open AmpMarkup.Markup

/-!
# Trees as text

The text of a tree by recursion: each node is made of its own part and the texts of its children.

* `Tree.toHtml raw t` — as HTML; `raw` says whether texts at the top are written as they stand.
* `Tree.outline depth t` — one line a node, from the given depth on.
-/

mutual

/-- A tree as HTML. -/
def toHtml (raw : Bool) : Tree → String
  | node .document children => listToHtml false children
  | node (.element name attributes) children =>
    let inside :=
      if isVoid name && children.isEmpty then ""
      else listToHtml (isRawText name) children ++ Document.htmlEndTag name
    Document.htmlStartTag name attributes ++ inside
  | node (.text content) _ => Document.htmlText raw content
  | node (.comment content) _ => Document.htmlComment content

/-- Trees as HTML, one after the other. -/
def listToHtml (raw : Bool) : List Tree → String
  | [] => ""
  | t :: rest => t.toHtml raw ++ listToHtml raw rest

end

mutual

/-- The lines of a tree, of which the top stands at the given depth. -/
def outline (depth : Nat) : Tree → List String
  | node kind children =>
    match kind.outlineEntry? with
    | none => []
    | some entry => Document.indented depth entry :: listOutline (depth + 1) children

/-- The lines of trees at the same depth. -/
def listOutline (depth : Nat) : List Tree → List String
  | [] => []
  | t :: rest => t.outline depth ++ listOutline depth rest

end

end AmpMarkup.Tree
