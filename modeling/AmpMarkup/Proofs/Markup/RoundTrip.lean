import AmpMarkup.Proofs.Conversion.LinkInvariant
import AmpMarkup.Proofs.Markup.Reading

namespace AmpMarkup

open AmpMarkup.Markup
open Document (root)

/-!
# What is written is read back

The tokens of a written document are those of its merged tree, and reading these tokens builds that
tree. So markup and documents are inverse to each other on everything that markup can say.

* `Document.printable_iff` — a document is printable if each connected node is; this is decided.
* `Tree.tree_readMarkup` — written trees are read as their merged form.
* `reachable_markup_read_back` — the round trip for every document with a history.
-/

variable {d : Document} {n : NodeId}

namespace Document

/-! ### Printable documents -/

/-- What `Printable` asks of one node. -/
def isPrintableAt (d : Document) (n : NodeId) : Bool :=
  match d.kind? n with
  | none => true
  | some .document => n = root
  | some (.element name a) =>
    IsName name && a.names.all (IsName ·) && (!isVoid name || (d.children n).isEmpty)
  | some (.text content) =>
    !((d.parent? n).bind d.tagName?).any isRawText || decide (IsPlainText content)
  | some (.comment content) => IsCommentText content

/-- A node with a name is an element. -/
theorem eq_element_of_tagName? {p : NodeId} {name : String} (h : d.tagName? p = some name) :
    ∃ a, d.kind? p = some (.element name a) := by
  rw [tagName?, Option.bind_eq_some_iff] at h
  obtain ⟨k, hk, hname⟩ := h
  match k, hname with
  | .element name' a, hname =>
    cases hname
    exact ⟨a, hk⟩

/-- A document is printable if each of its connected nodes is. -/
theorem printable_iff : d.Printable ↔
    ∀ i < d.size, d.isConnected ⟨i⟩ = true → d.isPrintableAt ⟨i⟩ = true := by
  constructor
  · intro h i _ hconn
    rw [isPrintableAt]
    cases hk : d.kind? ⟨i⟩ with
    | none => rfl
    | some k =>
      cases k with
      | document => simpa using h.document _ hconn hk
      | element name a =>
        obtain ⟨hname, hnames⟩ := h.element _ name a hconn hk
        have hvoid := h.void _ name a hconn hk
        cases hv : isVoid name <;> simp_all
      | text content =>
        cases hp : ((d.parent? ⟨i⟩).bind d.tagName?) with
        | none => simp
        | some name =>
          obtain ⟨p, hparent, htag⟩ := Option.bind_eq_some_iff.mp hp
          obtain ⟨a, hpk⟩ := eq_element_of_tagName? htag
          have hraw := fun hraw => h.raw _ p name a content hconn hparent hpk hraw hk
          cases hr : isRawText name <;> simp_all
      | comment content => simpa using h.comment _ content hconn hk
  · intro h
    have hat : ∀ n k, d.isConnected n = true → d.kind? n = some k → d.isPrintableAt n = true :=
      fun n k hconn hk => h n.index (index_lt_of_contains (contains_of_kind? hk)) hconn
    constructor
    · intro n hconn hk
      simpa [isPrintableAt, hk] using hat n _ hconn hk
    · intro n name a hconn hk
      have := hat n _ hconn hk
      simp only [isPrintableAt, hk, Bool.and_eq_true, decide_eq_true_eq, List.all_eq_true] at this
      exact this.1
    · intro n name a hconn hk hv
      have := hat n _ hconn hk
      simp only [isPrintableAt, hk, Bool.and_eq_true, hv] at this
      simpa using this.2
    · intro n content hconn hk
      simpa [isPrintableAt, hk] using hat n _ hconn hk
    · intro n p name a content hconn hparent hpk hraw hk
      have htag : d.tagName? p = some name := by rw [tagName?, hpk]; rfl
      simpa [isPrintableAt, hk, hparent, htag, hraw] using hat n _ hconn hk

instance (d : Document) : Decidable d.Printable := decidable_of_iff _ printable_iff.symm

/-- Markup can say the trees of a printable document. -/
theorem readable_tree (hwf : d.WellFormed) (hp : d.Printable)
    (hn : d.Below n root) (hne : n ≠ root) {raw : Bool}
    (hraw : raw = true → ∀ content, d.kind? n = some (.text content) → IsPlainText content) :
    (d.tree n).Readable raw := by
  induction n using hwf.induction_down generalizing raw with
  | _ n ih =>
    have hconn := (isConnected_iff hwf).mpr hn
    obtain ⟨k, hk⟩ := exists_kind? (hn.contains_lower hwf.contains_root)
    rw [tree_eq hwf, hk]
    have hleaf : k.allowsChildren = false → (d.children n).map d.tree = [] := fun hleaf => by
      rw [hwf.children_leaf n k hk hleaf, List.map_nil]
    cases k with
    | document => exact absurd (hp.document n hconn hk) hne
    | text content => exact ⟨fun h => hraw h content hk, hleaf rfl⟩
    | comment content => exact ⟨hp.comment n content hconn hk, hleaf rfl⟩
    | element name a =>
      obtain ⟨hname, hnames⟩ := hp.element n name a hconn hk
      refine ⟨hname, hnames, fun hv => ?_, ?_⟩
      · rw [hp.void n name a hconn hk hv, List.map_nil]
      · rw [Tree.allReadable_iff]
        intro t ht
        obtain ⟨c, hc, rfl⟩ := List.mem_map.mp ht
        have hparent := hwf.parent_of_mem hc
        have hbelow := (below_of_parent hparent).trans hn
        refine ih c hc hbelow (hwf.ne_root_of_parent hparent) fun hr content hck => ?_
        exact hp.raw c n name a content ((isConnected_iff hwf).mpr hbelow) hparent hk hr hck

/-- The trees under the root of a printable document can be read back. -/
theorem allReadable_children (hwf : d.WellFormed) (hp : d.Printable) :
    Tree.AllReadable false ((d.children root).map d.tree) := by
  rw [Tree.allReadable_iff]
  intro t ht
  obtain ⟨c, hc, rfl⟩ := List.mem_map.mp ht
  have hparent := hwf.parent_of_mem hc
  exact readable_tree hwf hp (below_of_parent hparent) (hwf.ne_root_of_parent hparent)
    fun hraw => absurd hraw Bool.false_ne_true

/-- What is written for the root is what is written for its children. -/
theorem toHtml_root (hwf : d.WellFormed) :
    d.toHtml root = Tree.listToHtml false ((d.children root).map d.tree) := by
  rw [toHtml_eq hwf hwf.contains_root, tree_eq hwf, hwf.kind_root]
  rw [Option.getD_some, Tree.toHtml]

end Document

namespace Tree

/-! ### The round trip -/

/-- Written trees are read as their merged form. -/
theorem tree_readMarkup {ts : List Tree} (h : AllReadable false ts) :
    (readMarkup (listToHtml false ts)).tree root = .node .document (mergeAll ts) := by
  have htokens : Markup.tokens (listToHtml false ts).toList = listTokens (mergeAll ts) := by
    have hall := tokens_listToHtml ts h "" (fun _ => isPlainText_empty) [] (by simp [IsAtTag])
    rw [Document.htmlText_empty, listTokens_joinText_empty] at hall
    simpa using hall
  obtain ⟨-, hgrown⟩ := Reading.grown_listTokens (mergeAll ts) (allReadable_mergeAll ts h) _
    Reading.isOpen_start
  obtain ⟨new, hnew, htrees⟩ := hgrown.children_parent
  have hroot : Document.empty.children root = [] := rfl
  rw [readMarkup, htokens, Document.tree_eq hgrown.wellFormed]
  rw [show Reading.start.parent = root from rfl] at hnew hgrown
  rw [hnew, show Reading.start.document = Document.empty from rfl, hroot, List.nil_append, htrees,
    hgrown.wellFormed.kind_root]
  rfl

/-- What is read from written trees is written in the same way. -/
theorem toHtml_readMarkup {ts : List Tree} (h : AllReadable false ts) :
    (readMarkup (listToHtml false ts)).toHtml root = listToHtml false ts := by
  have hwf := Conversion.wellFormed_readMarkup (listToHtml false ts)
  rw [Document.toHtml_eq hwf hwf.contains_root, tree_readMarkup h, toHtml, listToHtml_mergeAll ts h]

end Tree

namespace Conversion

/-- Whatever the history of a document, if markup can say all that is connected then what is written
    for the root is read as a document with the same tree, in which neighbouring texts are one and
    empty texts are gone; and what is written for that document is the same. -/
theorem reachable_markup_read_back (h : Reachable d) (hp : d.Printable) :
    (readMarkup (d.toHtml root)).tree root = (d.tree root).merge ∧
    (readMarkup (d.toHtml root)).toHtml root = d.toHtml root := by
  have hwf := h.wellFormed
  have hreadable := Document.allReadable_children hwf hp
  rw [Document.toHtml_root hwf]
  refine ⟨?_, Tree.toHtml_readMarkup hreadable⟩
  rw [Tree.tree_readMarkup hreadable, Document.tree_eq hwf root, hwf.kind_root, Option.getD_some,
    Tree.merge]

/-- A document with texts next to each other, an empty one among them, and quotes and entities in a
    value. -/
theorem reachable_markup_read_back_of_texts :
    let d := runAll (readMarkup "<p a='\"&lt;' b>x<br><script>y</script><!--z---></p>")
      [.createText "a<&amp;b", .appendChild ⟨1⟩ ⟨7⟩, .createText "", .appendChild ⟨1⟩ ⟨8⟩,
        .createText ">", .appendChild ⟨1⟩ ⟨9⟩]
    Reachable d ∧ d.Printable ∧
    (readMarkup (d.toHtml root)).tree root = (d.tree root).merge ∧
    (readMarkup (d.toHtml root)).toHtml root = d.toHtml root :=
  have h := (Reachable.read _).runAll _
  have hp := by decide +kernel
  ⟨h, hp, reachable_markup_read_back h hp⟩

end Conversion

end AmpMarkup
