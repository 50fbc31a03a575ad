import AmpMarkup.Proofs.Conversion.LinkInvariant
import AmpMarkup.Proofs.Document.Html

namespace AmpMarkup

open AmpMarkup.Markup
open Document (HtmlPiece NestedTags)

/-!
# The HTML of a node from that of its children

A node inside its parent is written as it is written alone, except that a text may stand there as
it is. So the text of a node is made of the texts of its children, and what is between its tags is
its inner text.

* `NestedTags.append`, `Tree.nested_pieces` — the tags of a tree are nested.
* `Document.toHtml_tree_eq_childHtml` — whether texts are escaped makes no difference to a node that
  is not a text itself.
* `reachable_html_by_recursion` — the text of every node of a document with a history.
-/

/-! ### Nesting -/

/-- Tags that are nested stay so one after the other. -/
theorem Document.NestedTags.append {ps qs : List HtmlPiece} (hp : NestedTags ps)
    (hq : NestedTags qs) : NestedTags (ps ++ qs) := by
  induction hp with
  | nil => exact hq
  | single hsingle _ ih => exact .single hsingle ih
  | @element name a inside rest hinside _ _ ih =>
    rw [List.cons_append, List.append_assoc, List.cons_append]
    exact .element hinside ih

namespace Tree

mutual

/-- The tags of a tree are nested. -/
theorem nested_pieces (raw : Bool) : ∀ t : Tree, NestedTags (t.pieces raw)
  | node .document children => by
    rw [pieces]
    exact nested_listPieces false children
  | node (.element name a) children => by
    rw [pieces]
    split
    · exact .single rfl .nil
    · exact .element (nested_listPieces _ children) .nil
  | node (.text content) _ => by
    rw [pieces]
    exact .single rfl .nil
  | node (.comment content) _ => by
    rw [pieces]
    exact .single rfl .nil

/-- The tags of some trees one after the other are nested. -/
theorem nested_listPieces (raw : Bool) : ∀ ts : List Tree, NestedTags (listPieces raw ts)
  | [] => .nil
  | t :: rest => by
    rw [listPieces]
    exact (nested_pieces raw t).append (nested_listPieces raw rest)

end

end Tree

/-! ### Nodes inside their parents -/

namespace Document

variable {d : Document} {n c : NodeId} {name content : String} {a : Attributes}

/-- Inside its parent a node is written as it is alone, except for a text. -/
theorem toHtml_tree_eq_childHtml (h : d.WellFormed) (hc : d.contains c = true) (raw : Bool) :
    (d.tree c).toHtml raw = d.childHtml raw c := by
  obtain ⟨k, hk⟩ := exists_kind? hc
  rw [childHtml, hk, toHtml_eq h hc, tree_kind h hk]
  cases k <;> simp only [Tree.toHtml]

/-- Where texts are escaped every node is written as it is alone. -/
theorem childHtml_false (h : d.WellFormed) (hc : d.contains c = true) :
    d.childHtml false c = d.toHtml c := by
  rw [← toHtml_tree_eq_childHtml h hc, toHtml_eq h hc]

/-- The children of a node are written one after the other. -/
theorem listToHtml_children (h : d.WellFormed) (n : NodeId) (raw : Bool) :
    Tree.listToHtml raw ((d.children n).map d.tree) =
      String.join ((d.children n).map (d.childHtml raw)) := by
  rw [Tree.listToHtml_eq_join, List.map_map]
  congr 1
  exact List.map_congr_left fun c hc => toHtml_tree_eq_childHtml h (h.contains_child hc) raw

/-! ### Nodes of each kind -/

/-- A document node is written as its children. -/
theorem toHtml_document (h : d.WellFormed) (hk : d.kind? n = some .document) :
    d.toHtml n = String.join ((d.children n).map d.toHtml) := by
  rw [toHtml_eq h (contains_of_kind? hk), tree_kind h hk, Tree.toHtml,
    listToHtml_children h]
  congr 1
  exact List.map_congr_left fun c hc => childHtml_false h (h.contains_child hc)

/-- The inside of a document node is all of it. -/
theorem innerHtml_document (h : d.WellFormed) (hk : d.kind? n = some .document) :
    d.innerHtml n = d.toHtml n := by
  have hn := contains_of_kind? hk
  have hname : (d.tagName? n).any isRawText = false := by
    rw [tagName?, hk]
    rfl
  rw [innerHtml_eq h hn, hname, toHtml_eq h hn, tree_kind h hk, Tree.toHtml]

/-- The inside of an element is its children, raw if the element is of that kind. -/
theorem innerHtml_element (h : d.WellFormed) (hk : d.kind? n = some (.element name a)) :
    d.innerHtml n = String.join ((d.children n).map (d.childHtml (isRawText name))) := by
  have hname : (d.tagName? n).any isRawText = isRawText name := by
    rw [tagName?, hk]
    rfl
  rw [innerHtml_eq h (contains_of_kind? hk), hname, listToHtml_children h]

/-- Between the tags of an element is its inner text. -/
theorem toHtml_element (h : d.WellFormed) (hk : d.kind? n = some (.element name a)) :
    d.toHtml n = htmlStartTag name a ++
      if isVoid name && (d.children n).isEmpty then "" else d.innerHtml n ++ htmlEndTag name := by
  rw [toHtml_eq h (contains_of_kind? hk), tree_kind h hk, Tree.toHtml,
    List.isEmpty_map, innerHtml_element h hk, listToHtml_children h]

/-- A text is escaped when it is written on its own. -/
theorem toHtml_text (h : d.WellFormed) (hk : d.kind? n = some (.text content)) :
    d.toHtml n = escapeText content := by
  rw [toHtml_eq h (contains_of_kind? hk), tree_kind h hk, Tree.toHtml]
  rfl

/-- A comment is written between its delimiters as it is. -/
theorem toHtml_comment (h : d.WellFormed) (hk : d.kind? n = some (.comment content)) :
    d.toHtml n = "<!--" ++ content ++ "-->" := by
  rw [toHtml_eq h (contains_of_kind? hk), tree_kind h hk, Tree.toHtml]
  rfl

/-- The writer comes to its end, and what it has written is nested. -/
theorem writes_node (h : d.WellFormed) (hn : d.contains n = true) :
    d.Writes [.node n false] ((d.tree n).pieces false) ∧
    NestedTags ((d.tree n).pieces false) ∧
    d.toHtml n = String.join (((d.tree n).pieces false).map HtmlPiece.html) := by
  refine ⟨?_, Tree.nested_pieces false _, by rw [toHtml_eq h hn, Tree.join_pieces]⟩
  simpa [stepPieces] using writes_flatMap h [.node n false]

end Document

/-! ### Documents with a history -/

namespace Conversion

variable {d : Document} {n : NodeId}

/-- For every live node of a document with a history the writer, which keeps what is still to be
    written in a list, comes to its end and writes what the recursion over the tree gives. The text
    of a document node is that of its children, and its inner text is the same; the text of an
    element is its start tag and, unless it is a void element without children, its inner text and
    its end tag, where the inner text is that of its children, with texts as they are in `script`
    and `style`. A text is escaped, and a comment is not. Start tags and end tags are nested. -/
theorem reachable_html_by_recursion (h : Reachable d) (hn : d.contains n = true) :
    d.toHtml n = (d.tree n).toHtml false ∧
    (d.kind? n = some .document →
      d.toHtml n = String.join ((d.children n).map d.toHtml) ∧ d.innerHtml n = d.toHtml n) ∧
    (∀ name a, d.kind? n = some (.element name a) →
      d.innerHtml n = String.join ((d.children n).map (d.childHtml (isRawText name))) ∧
      d.toHtml n = Document.htmlStartTag name a ++
        if isVoid name && (d.children n).isEmpty then ""
        else d.innerHtml n ++ Document.htmlEndTag name) ∧
    (∀ content, d.kind? n = some (.text content) → d.toHtml n = escapeText content) ∧
    (∀ content, d.kind? n = some (.comment content) →
      d.toHtml n = "<!--" ++ content ++ "-->") ∧
    d.Writes [.node n false] ((d.tree n).pieces false) ∧
    NestedTags ((d.tree n).pieces false) ∧
    d.toHtml n = String.join (((d.tree n).pieces false).map HtmlPiece.html) := by
  have hwf := h.wellFormed
  refine ⟨Document.toHtml_eq hwf hn, fun hk => ?_, fun name a hk => ?_, fun content hk => ?_,
    fun content hk => ?_, Document.writes_node hwf hn⟩
  · exact ⟨Document.toHtml_document hwf hk, Document.innerHtml_document hwf hk⟩
  · exact ⟨Document.innerHtml_element hwf hk, Document.toHtml_element hwf hk⟩
  · exact Document.toHtml_text hwf hk
  · exact Document.toHtml_comment hwf hk

/-- A script inside a block, before a void element. -/
theorem reachable_html_by_recursion_of_script :
    let d := runAll .empty [.createElement "div" .empty, .createElement "script" .empty,
      .createText "x<y", .createElement "br" .empty, .appendChild ⟨1⟩ ⟨2⟩, .appendChild ⟨2⟩ ⟨3⟩,
      .appendChild ⟨1⟩ ⟨4⟩]
    Reachable d ∧ d.contains ⟨1⟩ = true ∧ d.contains ⟨2⟩ = true ∧
    d.toHtml ⟨2⟩ = "<script>" ++ (d.innerHtml ⟨2⟩ ++ "</script>") ∧ d.innerHtml ⟨2⟩ = "x<y" ∧
    d.Writes [.node ⟨1⟩ false] [.startTag "div" .empty, .startTag "script" .empty,
      .text true "x<y", .endTag "script", .voidTag "br" .empty, .endTag "div"] := by
  intro d
  have h : Reachable d := Reachable.empty.runAll _
  have hfacts : d.contains ⟨1⟩ = true ∧ d.contains ⟨2⟩ = true ∧ d.children ⟨2⟩ = [⟨3⟩] ∧
      d.kind? ⟨2⟩ = some (.element "script" .empty) ∧ d.kind? ⟨3⟩ = some (.text "x<y") ∧
      (d.tree ⟨1⟩).pieces false = [.startTag "div" .empty, .startTag "script" .empty,
        .text true "x<y", .endTag "script", .voidTag "br" .empty, .endTag "div"] := by
    decide +kernel
  clear_value d
  obtain ⟨hdiv, hscript, hchildren, hkind, htext, hpieces⟩ := hfacts
  obtain ⟨-, -, helement, -⟩ := reachable_html_by_recursion h hscript
  obtain ⟨hinner, houter⟩ := helement _ _ hkind
  obtain ⟨-, -, -, -, -, hwrites, -⟩ := reachable_html_by_recursion h hdiv
  rw [hchildren] at hinner houter
  rw [hpieces] at hwrites
  refine ⟨h, hdiv, hscript, houter, ?_, hwrites⟩
  rw [hinner, List.map_singleton, String.join_cons, Document.childHtml, htext]
  rfl

end Conversion

end AmpMarkup
