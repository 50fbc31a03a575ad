import AmpMarkup.Markup.Reader
import AmpMarkup.Proofs.Document.Copy
import AmpMarkup.Proofs.Markup.TreeTokens

namespace AmpMarkup

open Document (root WellFormed SameAt)

/-!
# Reading tokens into a document

Each node that is read is new and becomes the last child of the innermost open element. So the
tokens of a tree put that tree behind the children that are already there, and leave the open
elements as they were.

* `Markup.Reading.run_addNode`, `added_addNode` — that child is added, and nothing refuses it.
* `Document.Grown d d' p ts` — `d'` is `d` with some more last children of `p`, whose trees are
  `ts`.
* `Markup.Reading.grown_tokens` — the tokens of a tree add that tree.
-/

variable {d d₁ d' : Document} {n m p c : NodeId} {k : NodeKind}

namespace Document

/-! ### More children -/

/-- `d'` is `d` with further last children of `p`, all of them new, whose trees are `ts`. -/
structure Grown (d d' : Document) (p : NodeId) (ts : List Tree) : Prop where
  wellFormed : d'.WellFormed
  size_le : d.size ≤ d'.size
  same (m : NodeId) : m.index < d.size → m ≠ p → SameAt d d' m
  kind_parent : d'.kind? p = d.kind? p
  parent_parent : d'.parent? p = d.parent? p
  children_parent : ∃ new, d'.children p = d.children p ++ new ∧ new.map d'.tree = ts

namespace Grown

variable {ts us : List Tree}

/-- Adding no trees changes nothing. -/
theorem nil (h : d.WellFormed) (p : NodeId) : Grown d d p [] where
  wellFormed := h
  size_le := Nat.le_refl _
  same _ _ _ := rfl
  kind_parent := rfl
  parent_parent := rfl
  children_parent := ⟨[], (List.append_nil _).symm, rfl⟩

/-- What is added later does not touch the trees that were added before. -/
theorem tree_child (h : Grown d d' p ts) (hwf : d.WellFormed) (hc : c ∈ d.children p) :
    d'.tree c = d.tree c := by
  -- Nothing below a child of `p` is `p`, so all of it has kept its slot.
  refine tree_congr hwf h.wellFormed fun m hm => ?_
  have hlive := hm.contains_lower (hwf.contains_child hc)
  have hmp : m ≠ p := by
    rintro rfl
    exact hwf.not_below_of_parent (hwf.parent_of_mem hc) hm
  have hsame := h.same m (index_lt_of_contains hlive) hmp
  exact ⟨hsame.kind?, hsame.children⟩

/-- Some children first and then some more. -/
theorem append (h₁ : Grown d d₁ p ts) (h₂ : Grown d₁ d' p us) : Grown d d' p (ts ++ us) where
  wellFormed := h₂.wellFormed
  size_le := Nat.le_trans h₁.size_le h₂.size_le
  same m hm hmp := (h₁.same m hm hmp).trans (h₂.same m (Nat.lt_of_lt_of_le hm h₁.size_le) hmp)
  kind_parent := h₂.kind_parent.trans h₁.kind_parent
  parent_parent := h₂.parent_parent.trans h₁.parent_parent
  children_parent := by
    obtain ⟨new₁, hnew₁, htrees₁⟩ := h₁.children_parent
    obtain ⟨new₂, hnew₂, htrees₂⟩ := h₂.children_parent
    have hmap : new₁.map d'.tree = new₁.map d₁.tree := List.map_congr_left fun c hc =>
      h₂.tree_child h₁.wellFormed (hnew₁ ▸ List.mem_append_right _ hc)
    refine ⟨new₁ ++ new₂, by rw [hnew₂, hnew₁, List.append_assoc], ?_⟩
    rw [List.map_append, htrees₂, hmap, htrees₁]

/-- A new node that has got the trees `ts` as its children. -/
theorem of_added (h₁ : Added d d₁ p k) (hp : p.index < d.size) (h₂ : Grown d₁ d' d.nextId ts) :
    Grown d d' p [.node k ts] := by
  have hsize := h₁.size_eq
  have hsame : ∀ m, m.index < d.size → SameAt d₁ d' m := fun m hm =>
    h₂.same m (by omega) (ne_nextId_of_lt hm)
  exact {
    wellFormed := h₂.wellFormed
    size_le := by
      have := h₂.size_le
      omega
    same m hm hmp := (h₁.same m hm hmp).trans (hsame m hm)
    kind_parent := (hsame p hp).kind?.trans h₁.kind_parent
    parent_parent := (hsame p hp).parent?.trans h₁.parent_parent
    children_parent := by
      obtain ⟨new, hnew, htrees⟩ := h₂.children_parent
      refine ⟨[d.nextId], by rw [(hsame p hp).children, h₁.children_parent], ?_⟩
      rw [List.map_singleton, tree_eq h₂.wellFormed, h₂.kind_parent, h₁.kind_new, hnew,
        h₁.children_new, List.nil_append, htrees]
      rfl }

/-- A new node without children. -/
theorem of_added_bare (h : Added d d' p k) (hp : p.index < d.size) : Grown d d' p [.node k []] :=
  of_added h hp (nil h.wellFormed _)

end Grown

end Document

namespace Markup.Reading

open Document (Added Grown)

variable {r r' : Reading}

/-! ### One token -/

/-- The innermost open element can take children. -/
structure IsOpen (r : Reading) : Prop where
  wellFormed : r.document.WellFormed
  allows : ∃ k, r.document.kind? r.parent = some k ∧ k.allowsChildren = true

/-- The innermost open element has a slot. -/
theorem IsOpen.parent_lt (h : r.IsOpen) : r.parent.index < r.document.size := by
  obtain ⟨k, hk, -⟩ := h.allows
  exact Document.index_lt_of_contains (Document.contains_of_kind? hk)

/-- At the start the root takes children. -/
theorem isOpen_start : start.IsOpen :=
  ⟨Document.wellFormed_empty, .document, rfl, rfl⟩

/-- A new node is never refused. -/
theorem run_addNode (h : r.IsOpen) (k : NodeKind) :
    (Edit.appendChild r.parent r.document.nextId).run (r.document.push k) =
      .ok () (r.addNode k).document := by
  obtain ⟨kp, hkp, hallows⟩ := h.allows
  have hrun := Edit.run_appendChild (Document.attachable_nextId h.wellFormed hkp hallows k)
  rw [addNode, Edit.exec_of_ok hrun, hrun]

/-- A node that is read becomes the last child of the innermost open element. -/
theorem added_addNode (h : r.IsOpen) (k : NodeKind) :
    Added r.document (r.addNode k).document r.parent k := by
  obtain ⟨kp, hkp, hallows⟩ := h.allows
  have hrun := Edit.run_appendChild (Document.attachable_nextId h.wellFormed hkp hallows k)
  rw [addNode, Edit.exec_of_ok hrun]
  exact Document.added_attach h.wellFormed hkp hallows k

/-- What grows below the innermost open element leaves it open. -/
theorem IsOpen.of_grown {ts : List Tree} (h : r.IsOpen)
    (hgrown : Grown r.document r'.document r.parent ts) (hopened : r'.opened = r.opened) :
    r'.IsOpen := by
  obtain ⟨k, hk, hallows⟩ := h.allows
  have hparent : r'.parent = r.parent := by rw [parent, parent, hopened]
  exact ⟨hgrown.wellFormed, k, by rw [hparent, hgrown.kind_parent, hk], hallows⟩

/-- An element that has just been opened can take children. -/
theorem isOpen_opened {name : String} {a : Attributes}
    (h : Added r.document r'.document r.parent (.element name a)) :
    IsOpen { r' with opened := r.document.nextId :: r'.opened } :=
  ⟨h.wellFormed, .element name a, h.kind_new, rfl⟩

/-- An end tag closes the innermost open element if it has that name. -/
theorem openedAfterEnd_of_named {name : String} {opened : List NodeId}
    (hopened : r.opened = n :: opened) (hn : r.document.isElementNamed n name = true) :
    r.openedAfterEnd name = opened := by
  rw [openedAfterEnd, hopened, List.findIdx?_cons, if_pos hn]
  rfl

/-! ### The tokens of a tree -/

/-- Stored names are in lower case, so the elements of markup are stored as they are. -/
theorem ofElement_of_isName {name : String} (h : IsName name) (a : Attributes) :
    NodeKind.ofElement name a = .element name a := by
  rw [NodeKind.ofElement, h.fold_eq]

mutual

/-- The tokens of a tree add that tree and leave the open elements as they were. -/
theorem grown_tokens {raw : Bool} : ∀ (t : Tree), t.Readable raw → ∀ r : Reading, r.IsOpen →
    (t.tokens.foldl add r).opened = r.opened ∧
      Grown r.document (t.tokens.foldl add r).document r.parent [t]
  | .node .document _, h, _, _ => absurd h (by simp [Tree.Readable])
  | .node (.text content) children, h, r, hr => by
    rw [Tree.Readable] at h
    rw [h.2, Tree.tokens]
    exact ⟨rfl, .of_added_bare (added_addNode hr _) hr.parent_lt⟩
  | .node (.comment content) children, h, r, hr => by
    rw [Tree.Readable] at h
    rw [h.2, Tree.tokens]
    exact ⟨rfl, .of_added_bare (added_addNode hr _) hr.parent_lt⟩
  | .node (.element name a) children, h, r, hr => by
    rw [Tree.Readable] at h
    obtain ⟨hname, -, hvoid, hchildren⟩ := h
    have hadded := added_addNode hr (.element name a)
    rw [Tree.tokens, List.foldl_cons, add, ofElement_of_isName hname]
    cases hv : isVoid name with
    | true =>
      rw [hvoid hv]
      exact ⟨rfl, .of_added_bare hadded hr.parent_lt⟩
    | false =>
      -- The children are read below the new element, and its end tag closes it.
      obtain ⟨hopened, hgrown⟩ := grown_listTokens children hchildren _ (isOpen_opened hadded)
      have hnamed : ∀ d' : Document, d'.kind? r.document.nextId = some (.element name a) →
          d'.isElementNamed r.document.nextId name = true := by
        intro d' hk
        simp [Document.isElementNamed, hk, NodeKind.isNamed, NodeKind.tagName?, Text.sameFold]
      have hclosed := openedAfterEnd_of_named hopened
        (hnamed _ (hgrown.kind_parent.trans hadded.kind_new))
      simp only [Bool.false_or, Bool.false_eq_true, if_false, List.foldl_append, List.foldl_cons,
        List.foldl_nil]
      exact ⟨hclosed, .of_added hadded hr.parent_lt hgrown⟩

/-- The tokens of some trees add those trees. -/
theorem grown_listTokens {raw : Bool} : ∀ (ts : List Tree), Tree.AllReadable raw ts →
    ∀ r : Reading, r.IsOpen →
    ((Tree.listTokens ts).foldl add r).opened = r.opened ∧
      Grown r.document ((Tree.listTokens ts).foldl add r).document r.parent ts
  | [], _, r, hr => by
    rw [Tree.listTokens]
    exact ⟨rfl, .nil hr.wellFormed _⟩
  | t :: ts, h, r, hr => by
    rw [Tree.AllReadable] at h
    obtain ⟨hopened₁, hgrown₁⟩ := grown_tokens t h.1 r hr
    obtain ⟨hopened₂, hgrown₂⟩ := grown_listTokens ts h.2 _ (hr.of_grown hgrown₁ hopened₁)
    have hparent : (t.tokens.foldl add r).parent = r.parent := by rw [parent, parent, hopened₁]
    rw [hparent] at hgrown₂
    rw [Tree.listTokens, List.foldl_append]
    exact ⟨hopened₂.trans hopened₁, hgrown₁.append hgrown₂⟩

end

end Markup.Reading

end AmpMarkup
