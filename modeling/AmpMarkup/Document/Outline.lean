import AmpMarkup.Document.Basic
import AmpMarkup.Text.Blank
import AmpMarkup.Text.Replace

namespace AmpMarkup

open AmpMarkup.Text

/-!
# Outlines

An outline shows a subtree with one line a node, indented by two spaces a level. Texts of blanks
only are left out.

* `NodeKind.outlineEntry?` — the line of one node without its indentation.
* `Document.outline d n` — the lines of `n` and of all that is below it, in document order.
* `Document.renderOutline d n` — those lines as one text.
* `Document.displayOutline d n` — the text that comes of writing one line after the other.
-/

/-- The line of a node, or nothing for a text of blanks. -/
def NodeKind.outlineEntry? : NodeKind → Option String
  | document => some "#document"
  | element name attributes =>
    let shown (e : String × String) := " " ++ e.1 ++ "=\"" ++ e.2 ++ "\""
    some ("<" ++ name ++ String.join (attributes.entries.map shown) ++ ">")
  | text content =>
    if content.toList.all isBlank then none
    else some ("\"" ++ String.ofList (replaceAll ['\n'] ['\\', 'n'] content.toList) ++ "\"")
  | comment content => some ("<!-- " ++ content ++ " -->")

namespace Document

/-- The line of a node; one that is not live is called missing. -/
def outlineEntry? (d : Document) (n : NodeId) : Option String :=
  match d.kind? n with
  | some k => k.outlineEntry?
  | none => some ("<missing " ++ n.label ++ ">")

/-- A line at the given depth. -/
def indented (depth : Nat) (line : String) : String := "".pushn ' ' (2 * depth) ++ line

/-- The lines of the nodes of the list, which have depths, each followed by those of what is below
    it. One step visits one node. -/
def outlineLines (d : Document) : Nat → List (NodeId × Nat) → List String
  | 0, _ | _, [] => []
  | fuel + 1, (n, depth) :: rest =>
    match d.outlineEntry? n with
    | none => outlineLines d fuel rest
    | some entry =>
      indented depth entry ::
        outlineLines d fuel ((d.children n).map (·, depth + 1) ++ rest)

/-- The lines of `n` and of what is below it. -/
def outline (d : Document) (n : NodeId) : List String := d.outlineLines (d.size + 1) [(n, 0)]

/-- The outline as one text. -/
def renderOutline (d : Document) (n : NodeId) : String := "\n".intercalate (d.outline n)

/-- What is written for lines that are counted from zero: the first one starts the text, each of the
    others a new line. -/
def writeLines (lines : List String) : String :=
  lines.zipIdx.foldl (fun text (line, i) => (if i ≠ 0 then text ++ "\n" else text) ++ line) ""

/-- The outline as it is displayed. -/
def displayOutline (d : Document) (n : NodeId) : String := writeLines (d.outline n)

end Document

end AmpMarkup
