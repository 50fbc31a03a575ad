import AmpMarkup.Document.Basic
import AmpMarkup.Text.Blank

namespace AmpMarkup

open AmpMarkup.Text

/-!
# The form of an outline

What a line of an outline is to say about its node, without the walk that makes the lines.

* `Document.ParentSteps d r n k` — so many steps from parent to parent lead from `n` up to `r`.
* `NodeKind.IsBlankText k` — a text of blanks only.
* `NodeKind.ShowsAs k line` — what is shown of a node, as a list of characters.
* `Document.IsLineOf d r n line` — a line for `n` in an outline of `r`.
-/

/-- A text without a character that is not a blank. -/
inductive NodeKind.IsBlankText : NodeKind → Prop where
  | text {content : String} : (∀ c ∈ content.toList, isBlank c = true) → IsBlankText (text content)

/-- What is shown of a node: the name of an element with the attributes in the order in which they
    are stored, a text in quotes with its line breaks escaped, and a comment as in markup. -/
inductive NodeKind.ShowsAs : NodeKind → List Char → Prop where
  | document : ShowsAs document "#document".toList
  | element {name : String} {attributes : Attributes} : ShowsAs (element name attributes)
      ('<' :: name.toList ++ attributes.entries.flatMap (fun e =>
        ' ' :: e.1.toList ++ '=' :: '"' :: e.2.toList ++ ['"']) ++ ['>'])
  | text {content : String} : ShowsAs (text content)
      ('"' :: content.toList.flatMap (fun c => if c = '\n' then ['\\', 'n'] else [c]) ++ ['"'])
  | comment {content : String} : ShowsAs (comment content)
      ("<!-- ".toList ++ content.toList ++ " -->".toList)

namespace Document

/-- From a node up to `r` there are so many parent links. -/
inductive ParentSteps (d : Document) (r : NodeId) : NodeId → Nat → Prop where
  | here : ParentSteps d r r 0
  | up {n p : NodeId} {k : Nat} :
    d.parent? n = some p → ParentSteps d r p k → ParentSteps d r n (k + 1)

/-- A line that shows `n`, with two spaces for each of the steps up to `r`. -/
inductive IsLineOf (d : Document) (r n : NodeId) : String → Prop where
  | intro {kind : NodeKind} {entry : List Char} {k : Nat} :
    d.kind? n = some kind → kind.ShowsAs entry → d.ParentSteps r n k →
      IsLineOf d r n (String.ofList (List.replicate (2 * k) ' ' ++ entry))

end Document

end AmpMarkup
