import AmpMarkup.Document.Tree
import AmpMarkup.Markup.Vocabulary

namespace AmpMarkup

/-!
# Documents that can be written and read back

Markup has no place for some of what a document may hold. What can be written so that reading it
gives the same again is described here, and also what reading cannot tell apart.

* `Markup.IsName` — the names that a tag can hold; they are in lower case.
* `Document.Printable` — below the root there is nothing that markup cannot say.
* `Tree.merge` — the tree with neighbouring texts made one, and without empty texts.
-/

namespace Markup

/-- The characters of a name after its letters have been folded. -/
def isLowerNameChar (c : Char) : Bool :=
  c.isLower || c.isDigit || c == '-' || c == '_' || c == ':'

/-- A name of an element or of an attribute as it is read from a tag. -/
def IsName (s : String) : Prop := s ≠ "" ∧ ∀ c ∈ s.toList, isLowerNameChar c = true

-- Only the characters of the name are gone through, and not all that there are.
instance (s : String) : Decidable (IsName s) :=
  decidable_of_iff (s ≠ "" ∧ s.toList.all isLowerNameChar = true) (by simp [IsName])

/-- The end of a comment does not occur in `s`. -/
def IsCommentText (s : String) : Prop := ¬ "-->".toList <:+: s.toList

instance (s : String) : Decidable (IsCommentText s) := inferInstanceAs (Decidable (¬ _))

/-- A text that begins neither a tag nor an entity. -/
def IsPlainText (s : String) : Prop := '<' ∉ s.toList ∧ '&' ∉ s.toList

instance (s : String) : Decidable (IsPlainText s) := inferInstanceAs (Decidable (_ ∧ _))

end Markup

namespace Document

open AmpMarkup.Markup

/-- The text directly inside connected `script` and `style` elements is plain. -/
def HasPlainRawText (d : Document) : Prop :=
  ∀ n p name a content, d.isConnected n = true → d.parent? n = some p →
    d.kind? p = some (.element name a) → isRawText name = true →
    d.kind? n = some (.text content) → IsPlainText content

/-- Everything connected can be written and read back. -/
structure Printable (d : Document) : Prop where
  /-- The only document node is the root. -/
  document (n : NodeId) : d.isConnected n = true → d.kind? n = some .document → n = root
  /-- Elements have names that can stand in a tag, and so have their attributes. -/
  element (n : NodeId) (name : String) (a : Attributes) : d.isConnected n = true →
    d.kind? n = some (.element name a) → IsName name ∧ ∀ x ∈ a.names, IsName x
  /-- No void element has children. -/
  void (n : NodeId) (name : String) (a : Attributes) : d.isConnected n = true →
    d.kind? n = some (.element name a) → isVoid name = true → d.children n = []
  comment (n : NodeId) (content : String) : d.isConnected n = true →
    d.kind? n = some (.comment content) → IsCommentText content
  raw : d.HasPlainRawText

end Document

namespace Tree

/-- The text `s` in front of trees: it is joined to a text that comes first, and if it is empty it
    is not there. -/
def joinText (s : String) : List Tree → List Tree
  | node (.text t) _ :: rest => node (.text (s ++ t)) [] :: rest
  | ts => if s.isEmpty then ts else node (.text s) [] :: ts

mutual

/-- The tree with neighbouring texts joined and without empty texts. -/
def merge : Tree → Tree
  | node kind children => node kind (mergeAll children)

/-- The children of one node, with neighbouring texts joined and without empty texts. -/
def mergeAll : List Tree → List Tree
  | [] => []
  | node kind children :: rest =>
    match kind with
    | .text s => joinText s (mergeAll rest)
    | kind => node kind (mergeAll children) :: mergeAll rest

end

end Tree

end AmpMarkup
