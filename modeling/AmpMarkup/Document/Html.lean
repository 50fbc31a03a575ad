import AmpMarkup.Document.Basic
import AmpMarkup.Markup.Entity
import AmpMarkup.Markup.Vocabulary

namespace AmpMarkup.Document

open AmpMarkup.Markup

/-!
# Documents as HTML

Attributes stand in stored order; one with an empty value is written as a bare name. The children
of `script` and `style` are written without escapes. A void element has an end tag only if it has
children.

* `HtmlStep` — what is still to be written: a node or an end tag.
* `htmlPieces` — the pieces of text that a list of steps gives, in order.
* `toHtml d n`, `innerHtml d n` — the node itself, and its children only.
-/

/-- Something that is still to be written. -/
inductive HtmlStep where
  | node (n : NodeId) (raw : Bool)
  | endTag (name : String)
  deriving DecidableEq, Repr

/-- One attribute with the space before it. -/
def htmlAttribute (e : String × String) : String :=
  if e.2.isEmpty then " " ++ e.1 else " " ++ e.1 ++ "=\"" ++ escapeValue e.2 ++ "\""

/-- A tag with the attributes in their order. -/
def htmlStartTag (name : String) (attributes : Attributes) : String :=
  "<" ++ name ++ String.join (attributes.entries.map htmlAttribute) ++ ">"

/-- The tag that ends an element. -/
def htmlEndTag (name : String) : String := "</" ++ name ++ ">"

/-- A text, which is left as it is inside `script` and `style`. -/
def htmlText (raw : Bool) (content : String) : String := if raw then content else escapeText content

/-- A comment; nothing in it is escaped. -/
def htmlComment (content : String) : String := "<!--" ++ content ++ "-->"

/-- The pieces that the steps give. Every node takes at most two steps. -/
def htmlPieces (d : Document) : Nat → List HtmlStep → List String
  | 0, _ | _, [] => []
  | fuel + 1, .endTag name :: rest => htmlEndTag name :: htmlPieces d fuel rest
  | fuel + 1, .node n raw :: rest =>
    let children (raw : Bool) := (d.children n).map (HtmlStep.node · raw)
    match d.kind? n with
    | none => htmlPieces d fuel rest
    | some .document => htmlPieces d fuel (children false ++ rest)
    | some (.element name attributes) =>
      htmlStartTag name attributes ::
        if isVoid name && (d.children n).isEmpty then htmlPieces d fuel rest
        else htmlPieces d fuel (children (isRawText name) ++ .endTag name :: rest)
    | some (.text content) => htmlText raw content :: htmlPieces d fuel rest
    | some (.comment content) => htmlComment content :: htmlPieces d fuel rest

/-- The text that the steps give. -/
def htmlOfSteps (d : Document) (steps : List HtmlStep) : String :=
  String.join (d.htmlPieces (2 * d.size + 1) steps)

/-- `n` with all that is below it; for the document node the text of its children. -/
def toHtml (d : Document) (n : NodeId) : String := d.htmlOfSteps [.node n false]

/-- What is below `n`. -/
def innerHtml (d : Document) (n : NodeId) : String :=
  d.htmlOfSteps ((d.children n).map (.node · ((d.tagName? n).any isRawText)))

end AmpMarkup.Document
