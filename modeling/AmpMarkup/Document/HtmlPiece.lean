import AmpMarkup.Document.Html
import AmpMarkup.Document.Tree

namespace AmpMarkup

open AmpMarkup.Markup

/-!
# The pieces of HTML

What is written for a document is a list of tags, texts and comments. They are kept apart here, so
that it can be said which end tag belongs to which start tag, and the writer is given once more as
what one step does and as a run without a bound on its steps.

* `HtmlPiece` — a tag, a text or a comment, and `HtmlPiece.html`, how it is written.
* `Document.writeStep d step` — what one step writes, and what is then to be written next.
* `Document.Writes d steps pieces` — a run of such steps that has come to its end.
* `NestedTags pieces` — start and end tags of the same name enclose pieces that are nested as well.
* `Tree.pieces raw t` — the pieces of a tree, by recursion.
* `Document.childHtml d raw c` — a child inside its parent.
-/

namespace Document

/-- One piece of what is written. -/
inductive HtmlPiece where
  | startTag (name : String) (attributes : Attributes)
  /-- A start tag without an end tag. -/
  | voidTag (name : String) (attributes : Attributes)
  | endTag (name : String)
  | text (raw : Bool) (content : String)
  | comment (content : String)
  deriving DecidableEq, Repr

namespace HtmlPiece

/-- How a piece is written. -/
def html : HtmlPiece → String
  | startTag name attributes | voidTag name attributes => htmlStartTag name attributes
  | endTag name => htmlEndTag name
  | text raw content => htmlText raw content
  | comment content => htmlComment content

/-- Does the piece stand for itself? -/
def isSingle : HtmlPiece → Bool
  | startTag .. | endTag _ => false
  | voidTag .. | text .. | comment _ => true

end HtmlPiece

/-! ### One step after the other -/

/-- What one step writes, and the steps that come before the rest. -/
def writeStep (d : Document) : HtmlStep → List HtmlPiece × List HtmlStep
  | .endTag name => ([.endTag name], [])
  | .node n raw =>
    let children (raw : Bool) := (d.children n).map (HtmlStep.node · raw)
    match d.kind? n with
    | none => ([], [])
    | some .document => ([], children false)
    | some (.element name attributes) =>
      if isVoid name && (d.children n).isEmpty then ([.voidTag name attributes], [])
      else ([.startTag name attributes], children (isRawText name) ++ [.endTag name])
    | some (.text content) => ([.text raw content], [])
    | some (.comment content) => ([.comment content], [])

/-- Taking the steps of the first list, and all they lead to, writes the pieces of the second. -/
inductive Writes (d : Document) : List HtmlStep → List HtmlPiece → Prop where
  | done : Writes d [] []
  | step {step : HtmlStep} {rest : List HtmlStep} {pieces : List HtmlPiece} :
    Writes d ((d.writeStep step).2 ++ rest) pieces →
    Writes d (step :: rest) ((d.writeStep step).1 ++ pieces)

/-- A child as it is written inside its parent: a text may stand there as it is. -/
def childHtml (d : Document) (raw : Bool) (c : NodeId) : String :=
  match d.kind? c with
  | some (.text content) => htmlText raw content
  | _ => d.toHtml c

/-! ### Nesting -/

/-- Every start tag has its end tag, of the same name, and the pieces in between are nested. -/
inductive NestedTags : List HtmlPiece → Prop where
  | nil : NestedTags []
  | single {piece : HtmlPiece} {rest : List HtmlPiece} :
    piece.isSingle = true → NestedTags rest → NestedTags (piece :: rest)
  | element {name : String} {attributes : Attributes} {inside rest : List HtmlPiece} :
    NestedTags inside → NestedTags rest →
    NestedTags (.startTag name attributes :: (inside ++ .endTag name :: rest))

end Document

/-! ### Trees -/

namespace Tree

open Document (HtmlPiece)

mutual

/-- The pieces of a tree; `raw` says whether texts at the top are written as they stand. -/
def pieces (raw : Bool) : Tree → List HtmlPiece
  | node .document children => listPieces false children
  | node (.element name attributes) children =>
    if isVoid name && children.isEmpty then [.voidTag name attributes]
    else .startTag name attributes :: (listPieces (isRawText name) children ++ [.endTag name])
  | node (.text content) _ => [.text raw content]
  | node (.comment content) _ => [.comment content]

/-- The pieces of trees, one after the other. -/
def listPieces (raw : Bool) : List Tree → List HtmlPiece
  | [] => []
  | t :: rest => t.pieces raw ++ listPieces raw rest

end

end Tree

end AmpMarkup
