import AmpMarkup.Proofs.Markup.Reading
import Mathlib.Data.List.Sort
import Mathlib.Order.Defs.LinearOrder

namespace AmpMarkup

open AmpMarkup.Markup
open Document (root WellFormed)

/-!
# Reading in document order

Markup is read into a document in the order in which it stands there. The open elements are always
on the last path of the tree: all that has been read since one of them was opened is below it. So a
new node comes after every other node in document order, whatever tags are missing or stray.

* `Document.InCreationOrder` — every node is connected, and later nodes come later in document
  order.
* `Document.InCreationOrder.of_added` — a new child of a node on the last path keeps this.
* `Document.InCreationOrder.descendants_root` — the nodes below the root are all others, in order.
* `Markup.Reading.Ordered` — the invariant of reading; `Ordered.add` is one token.
* `readMarkup_in_creation_order` — what holds of all that is read.
-/

variable {d d' : Document} {n m p c : NodeId} {k : NodeKind}

namespace Document

/-! ### One more child -/

namespace Added

variable (h : Added d d' p k)
include h

/-- A further node leaves the kinds of the others as they are. -/
theorem kind?_of_lt (hm : m.index < d.size) : d'.kind? m = d.kind? m := by
  by_cases hmp : m = p
  · rw [hmp, h.kind_parent]
  · exact (h.same m hm hmp).kind?

/-- A further node leaves the parents of the others as they are. -/
theorem parent?_of_lt (hm : m.index < d.size) : d'.parent? m = d.parent? m := by
  by_cases hmp : m = p
  · rw [hmp, h.parent_parent]
  · exact (h.same m hm hmp).parent?

/-- Every live node is the new one or an old one. -/
theorem eq_or_lt (hm : d'.contains m = true) : m = d.nextId ∨ m.index < d.size := by
  have hlt := index_lt_of_contains hm
  rw [h.size_eq] at hlt
  rcases Nat.lt_succ_iff_lt_or_eq.mp hlt with hold | hnew
  · exact .inr hold
  · exact .inl (congrArg NodeId.mk hnew)

/-- The new child is below all that its parent is below, and no other node has moved. -/
theorem below_iff (hwf : d.WellFormed) (hp : p.index < d.size) :
    d'.Below m n ↔ d.Below m n ∨ m = d.nextId ∧ d.Below p n := by
  have hmono : ∀ x y, d.Below x y → d'.Below x y := by
    refine fun x y => Relation.ReflTransGen.mono (fun x q hq => ?_) x y
    rw [IsParent, h.parent?_of_lt (index_lt_of_contains (contains_of_parent? hq)), hq]
  constructor
  · intro hb
    induction hb using Relation.ReflTransGen.head_induction_on with
    | refl => exact .inl (below_refl d n)
    | @head x q hxq _ ih =>
      rcases h.eq_or_lt (contains_of_parent? hxq) with rfl | hx
      · rw [IsParent, h.parent_new, Option.some.injEq] at hxq
        subst hxq
        refine .inr ⟨rfl, ih.elim id fun heq => ?_⟩
        exact absurd heq.1 (ne_nextId_of_lt hp)
      · rw [IsParent, h.parent?_of_lt hx] at hxq
        rcases ih with hqn | ⟨rfl, -⟩
        · exact .inl ((below_of_parent hxq).trans hqn)
        · have hlive := hwf.contains_parent hxq
          rw [not_contains_nextId] at hlive
          cases hlive
  · rintro (hb | ⟨rfl, hb⟩)
    · exact hmono m n hb
    · exact (below_of_parent h.parent_new).trans (hmono p n hb)

end Added

/-! ### Documents in creation order -/

/-- All nodes are connected, and the order in which they were made is document order. -/
structure InCreationOrder (d : Document) : Prop where
  wellFormed : d.WellFormed
  connected (i : Nat) : i < d.size → d.Below ⟨i⟩ root
  parent_lt (n p : NodeId) : d.parent? n = some p → p.index < n.index
  /-- What is below a child is older than its later siblings. -/
  siblings (n : NodeId) : (d.children n).Pairwise fun a b => ∀ m, d.Below m a → m.index < b.index

/-- Everything made since `n` is below `n`. -/
def IsLast (d : Document) (n : NodeId) : Prop := ∀ i, n.index ≤ i → i < d.size → d.Below ⟨i⟩ n

/-- The empty document has its root only. -/
theorem inCreationOrder_empty : empty.InCreationOrder where
  wellFormed := wellFormed_empty
  connected i hi := by
    have hzero : i = 0 := by simpa [empty, size] using hi
    rw [hzero]
    exact below_refl _ _
  parent_lt n p hp := by
    rw [parent?, slot?_empty] at hp
    split at hp <;> cases hp
  siblings n := by
    rw [children, slot?_empty]
    split <;> exact List.Pairwise.nil

/-- A node stays at the end if a node is added somewhere below it. -/
theorem IsLast.of_added (h : d.IsLast n) (hwf : d.WellFormed) (hadd : Added d d' p k)
    (hp : p.index < d.size) (hb : d.Below p n) : d'.IsLast n := by
  intro i hni hi
  rw [hadd.below_iff hwf hp]
  rw [hadd.size_eq] at hi
  rcases Nat.lt_succ_iff_lt_or_eq.mp hi with hold | rfl
  · exact .inl (h i hni hold)
  · exact .inr ⟨rfl, hb⟩

/-- The new node is at the end. -/
theorem isLast_new (hadd : Added d d' p k) : d'.IsLast d.nextId := by
  intro i hni hi
  rw [hadd.size_eq] at hi
  have heq : i = d.size := Nat.le_antisymm (Nat.le_of_lt_succ hi) hni
  rw [heq]
  exact below_refl _ _

namespace InCreationOrder

variable (h : d.InCreationOrder)
include h

/-- Every slot holds a live node. -/
theorem contains {i : Nat} (hi : i < d.size) : d.contains ⟨i⟩ = true :=
  (h.connected i hi).contains_lower h.wellFormed.contains_root

/-- Everything hangs below the root. -/
theorem isLast_root : d.IsLast root := fun i _ hi => h.connected i hi

/-- A new child of a node on the last path comes after all other nodes. -/
theorem of_added (hadd : Added d d' p k) (hp : p.index < d.size) (hlast : d.IsLast p) :
    d'.InCreationOrder where
  wellFormed := hadd.wellFormed
  connected i hi :=
    h.isLast_root.of_added h.wellFormed hadd hp (h.connected p.index hp) i (Nat.zero_le i) hi
  parent_lt n q hq := by
    rcases hadd.eq_or_lt (contains_of_parent? hq) with rfl | hn
    · rw [hadd.parent_new, Option.some.injEq] at hq
      exact hq ▸ hp
    · rw [hadd.parent?_of_lt hn] at hq
      exact h.parent_lt n q hq
  siblings n := by
    have hbelow := fun m n => hadd.below_iff (m := m) (n := n) h.wellFormed hp
    -- The new node is not below an earlier sibling: its parent would have to be older than the
    -- later one, which is on the last path too and so below that parent.
    have hold : (d.children n).Pairwise fun a b => ∀ m, d'.Below m a → m.index < b.index := by
      refine (h.siblings n).imp_of_mem fun {a b} ha hb hab m hm => ?_
      rcases (hbelow m a).mp hm with hm | ⟨-, hpa⟩
      · exact hab m hm
      · have hblt := index_lt_of_contains (h.wellFormed.contains_child hb)
        have hba := (hlast b.index (Nat.le_of_lt (hab p hpa)) hblt).trans hpa
        have heq := eq_of_below_children h.wellFormed ha hb hba (below_refl d b)
        have hself := hab a (below_refl d a)
        rw [← heq] at hself
        exact absurd hself (Nat.lt_irrefl _)
    by_cases hnp : n = p
    · rw [hnp] at hold ⊢
      rw [hadd.children_parent, List.pairwise_append]
      refine ⟨hold, List.pairwise_singleton _ _, fun a ha b hb m hm => ?_⟩
      rw [List.mem_singleton.mp hb]
      rcases (hbelow m a).mp hm with hm | ⟨-, hpa⟩
      · exact index_lt_of_contains (hm.contains_lower (h.wellFormed.contains_child ha))
      · exact absurd hpa (h.wellFormed.not_below_of_parent (h.wellFormed.parent_of_mem ha))
    · cases hn : d'.contains n with
      | false =>
        rw [children_eq_nil_of_not_contains hn]
        exact List.Pairwise.nil
      | true =>
        rcases hadd.eq_or_lt hn with rfl | hlt
        · rw [hadd.children_new]
          exact List.Pairwise.nil
        · rw [(hadd.same n hlt hnp).children]
          exact hold

/-- A node comes after the node that it hangs below. -/
theorem index_le_of_below (hb : d.Below m n) : n.index ≤ m.index := by
  induction hb using Relation.ReflTransGen.head_induction_on with
  | refl => exact Nat.le_refl _
  | head hparent _ ih => exact Nat.le_of_lt (Nat.lt_of_le_of_lt ih (h.parent_lt _ _ hparent))

/-- In document order nodes are ordered by age. -/
theorem pairwise_subtree_lt (n : NodeId) : (d.subtree n).Pairwise fun a b => a.index < b.index := by
  induction n using h.wellFormed.induction_down with
  | _ n ih =>
    rw [subtree_eq h.wellFormed, List.pairwise_cons, List.pairwise_flatMap]
    refine ⟨fun m hm => ?_, ih, (h.siblings n).imp fun {a b} hab x hx y hy => ?_⟩
    · obtain ⟨c, hc, hmc⟩ := List.mem_flatMap.mp hm
      have hle := h.index_le_of_below ((mem_subtree_iff h.wellFormed).mp hmc)
      exact Nat.lt_of_lt_of_le (h.parent_lt c n (h.wellFormed.parent_of_mem hc)) hle
    · have hle := h.index_le_of_below ((mem_subtree_iff h.wellFormed).mp hy)
      exact Nat.lt_of_lt_of_le (hab x ((mem_subtree_iff h.wellFormed).mp hx)) hle

/-- The nodes of the whole tree in order are all slots in order. -/
theorem subtree_root : (d.subtree root).map NodeId.index = List.range d.size := by
  have hsorted : ((d.subtree root).map NodeId.index).Pairwise (· < ·) :=
    List.pairwise_map.mpr (h.pairwise_subtree_lt root)
  refine hsorted.eq_of_mem_iff List.pairwise_lt_range fun i => ?_
  rw [List.mem_map, List.mem_range]
  constructor
  · rintro ⟨n, hn, rfl⟩
    exact index_lt_of_contains
      (contains_of_mem_subtree h.wellFormed h.wellFormed.contains_root hn)
  · exact fun hi => ⟨⟨i⟩, (mem_subtree_iff h.wellFormed).mpr (h.connected i hi), rfl⟩

/-- Below the root stand all other nodes, in the order in which they were made. -/
theorem descendants_root : d.descendants root = (List.range' 1 (d.size - 1)).map NodeId.mk := by
  have hindex := h.subtree_root
  have hpos : d.size = d.size - 1 + 1 := by
    have := index_lt_of_contains h.wellFormed.contains_root
    omega
  rw [subtree_eq_cons_descendants h.wellFormed, hpos, List.range_eq_range', List.range'_succ,
    List.map_cons, List.cons.injEq] at hindex
  rw [← hindex.2, List.map_map]
  exact (List.map_id _).symm

end InCreationOrder

end Document

/-- What is read is made of names that can stand in a tag, of comments without their own end and of
    texts that are not empty. -/
def NodeKind.IsSpelled : NodeKind → Prop
  | document => False
  | element name a => IsName name ∧ ∀ x ∈ a.names, IsName x
  | text content => content ≠ ""
  | comment content => IsCommentText content

namespace Markup.Reading

open Document (InCreationOrder IsLast)

/-! ### Reading -/

/-- What holds between tokens: nodes are in document order, and the open elements are on the last
    path, the innermost of them furthest down. -/
structure Ordered (r : Reading) : Prop where
  order : r.document.InCreationOrder
  last : ∀ n ∈ r.opened, r.document.IsLast n
  nested : r.opened.Pairwise fun inner outer => outer.index < inner.index
  /-- Only elements that can have content are open. -/
  opened_kind : ∀ n ∈ r.opened, ∃ name a,
    r.document.kind? n = some (.element name a) ∧ isVoid name = false
  spelled (n : NodeId) (k : NodeKind) : n ≠ root → r.document.kind? n = some k → k.IsSpelled
  void (n : NodeId) (name : String) (a : Attributes) :
    r.document.kind? n = some (.element name a) → isVoid name = true → r.document.children n = []

/-- At the start there is only the root. -/
theorem ordered_start : start.Ordered where
  order := Document.inCreationOrder_empty
  last _ hn := absurd hn List.not_mem_nil
  nested := List.Pairwise.nil
  opened_kind _ hn := absurd hn List.not_mem_nil
  spelled n k hne hk := by
    rw [start, Document.kind?, Document.slot?_empty, if_neg hne] at hk
    cases hk
  void n name a _ _ := by
    rw [start, Document.children, Document.slot?_empty]
    split <;> rfl

namespace Ordered

variable {r : Reading} (h : r.Ordered)
include h

/-- The links of the document are in order. -/
theorem wellFormed : r.document.WellFormed := h.order.wellFormed

omit h in
/-- The next node is put under the root or under an open element. -/
theorem parent_cases (r : Reading) : r.parent = root ∨ r.parent ∈ r.opened := by
  rw [parent]
  cases r.opened with
  | nil => exact .inl rfl
  | cons n rest => exact .inr List.mem_cons_self

/-- The innermost open element can have content. -/
theorem kind_parent : ∃ k, r.document.kind? r.parent = some k ∧ k.allowsChildren = true ∧
    ∀ name a, k = .element name a → isVoid name = false := by
  rcases parent_cases r with heq | hmem
  · rw [heq]
    exact ⟨.document, h.wellFormed.kind_root, rfl, fun name a hk => by cases hk⟩
  · obtain ⟨name, a, hk, hv⟩ := h.opened_kind _ hmem
    exact ⟨.element name a, hk, rfl, fun name' a' hk' => by cases hk'; exact hv⟩

/-- The innermost open element takes children. -/
theorem isOpen : r.IsOpen := by
  obtain ⟨k, hk, hallows, -⟩ := h.kind_parent
  exact ⟨h.wellFormed, k, hk, hallows⟩

/-- The innermost open element is at the end. -/
theorem isLast_parent : r.document.IsLast r.parent := by
  rcases parent_cases r with heq | hmem
  · rw [heq]
    exact h.order.isLast_root
  · exact h.last _ hmem

/-- The innermost open element is below all others. -/
theorem below_of_opened {n : NodeId} (hn : n ∈ r.opened) : r.document.Below r.parent n := by
  refine h.last n hn r.parent.index ?_ h.isOpen.parent_lt
  have hnested := h.nested
  rw [parent]
  cases hopened : r.opened with
  | nil => rw [hopened] at hn; exact absurd hn List.not_mem_nil
  | cons inner rest =>
    rw [hopened] at hn hnested
    rcases List.mem_cons.mp hn with rfl | hn
    · exact Nat.le_refl _
    · exact Nat.le_of_lt ((List.pairwise_cons.mp hnested).1 n hn)

/-- Every open element has a slot. -/
theorem index_lt_of_opened {n : NodeId} (hn : n ∈ r.opened) : n.index < r.document.size := by
  obtain ⟨name, a, hk, -⟩ := h.opened_kind n hn
  exact Document.index_lt_of_contains (Document.contains_of_kind? hk)

/-- A new node keeps the invariant. -/
theorem addNode {k : NodeKind} (hk : k.IsSpelled) : (r.addNode k).Ordered := by
  have hadd := added_addNode h.isOpen k
  have hplt := h.isOpen.parent_lt
  obtain ⟨kp, hkp, -, hpvoid⟩ := h.kind_parent
  exact {
    order := h.order.of_added hadd hplt h.isLast_parent
    last n hn := (h.last n hn).of_added h.wellFormed hadd hplt (h.below_of_opened hn)
    nested := h.nested
    opened_kind n hn := by
      rw [hadd.kind?_of_lt (h.index_lt_of_opened hn)]
      exact h.opened_kind n hn
    spelled n k' hne hk' := by
      rcases hadd.eq_or_lt (Document.contains_of_kind? hk') with rfl | hlt
      · rw [hadd.kind_new, Option.some.injEq] at hk'
        exact hk' ▸ hk
      · exact h.spelled n k' hne (hadd.kind?_of_lt hlt ▸ hk')
    void n name a hn hv := by
      rcases hadd.eq_or_lt (Document.contains_of_kind? hn) with rfl | hlt
      · exact hadd.children_new
      · rw [hadd.kind?_of_lt hlt] at hn
        have hnp : n ≠ r.parent := by
          rintro rfl
          rw [hkp, Option.some.injEq] at hn
          rw [hpvoid name a hn] at hv
          cases hv
        rw [(hadd.same n hlt hnp).children]
        exact h.void n name a hn hv }

/-- Opening the new node keeps the invariant if the node can have content. -/
theorem openNode {name : String} {a : Attributes} (hk : (NodeKind.element name a).IsSpelled)
    (hv : isVoid name = false) :
    Ordered { r.addNode (.element name a) with opened := r.document.nextId :: r.opened } := by
  have hadd := added_addNode h.isOpen (.element name a)
  have hnode := h.addNode hk
  exact {
    order := hnode.order
    last n hn := by
      rcases List.mem_cons.mp hn with rfl | hn
      · exact Document.isLast_new hadd
      · exact hnode.last n hn
    nested := List.pairwise_cons.mpr ⟨fun n hn => h.index_lt_of_opened hn, h.nested⟩
    opened_kind n hn := by
      rcases List.mem_cons.mp hn with rfl | hn
      · exact ⟨name, a, hadd.kind_new, hv⟩
      · exact hnode.opened_kind n hn
    spelled := hnode.spelled
    void := hnode.void }

/-- Closing elements keeps the invariant. -/
theorem close {opened : List NodeId} (hsub : opened.Sublist r.opened) :
    Ordered { r with opened } where
  order := h.order
  last n hn := h.last n (hsub.subset hn)
  nested := h.nested.sublist hsub
  opened_kind n hn := h.opened_kind n (hsub.subset hn)
  spelled := h.spelled
  void := h.void

omit h in
/-- Closing elements leaves the outer ones open. -/
theorem openedAfterEnd_sublist (r : Reading) (name : String) :
    (r.openedAfterEnd name).Sublist r.opened := by
  rw [openedAfterEnd]
  split
  · exact List.drop_sublist _ _
  · exact List.Sublist.refl _

/-- One more token. -/
theorem add {t : Token} (ht : t.IsSpelled) : (r.add t).Ordered := by
  cases t with
  | text content => exact h.addNode ht
  | comment content => exact h.addNode ht
  | declaration => exact h
  | endTag name => exact h.close (openedAfterEnd_sublist r name)
  | startTag name a selfClosing =>
    obtain ⟨hname, ha⟩ := ht
    rw [Reading.add, ofElement_of_isName hname]
    cases hclosed : selfClosing || isVoid name with
    | true => exact h.addNode ⟨hname, ha⟩
    | false => exact h.openNode ⟨hname, ha⟩ (Bool.or_eq_false_iff.mp hclosed).2

/-- All tokens of a text. -/
theorem foldl {ts : List Token} (hts : ∀ t ∈ ts, t.IsSpelled) :
    (ts.foldl Reading.add r).Ordered := by
  induction ts generalizing r with
  | nil => exact h
  | cons t rest ih =>
    exact ih (h.add (hts t List.mem_cons_self)) fun x hx => hts x (List.mem_cons_of_mem t hx)

end Ordered

end Markup.Reading

namespace Markup

open Reading

/-- After any number of tokens the nodes are in order of creation. -/
theorem ordered_of_tokens {s : List Char} {before after : List Token}
    (h : tokens s = before ++ after) : (before.foldl Reading.add .start).Ordered :=
  ordered_start.foldl fun _ ht => isSpelled_of_mem_tokens (h ▸ List.mem_append_left after ht)

/-- After all tokens the nodes are in order of creation. -/
theorem ordered_readMarkup (s : String) : ((tokens s.toList).foldl Reading.add .start).Ordered :=
  ordered_of_tokens (List.append_nil _).symm

/-- All that is read but the root could have been written. -/
theorem isSpelled_readMarkup {s : String} (hk : (readMarkup s).kind? n = some k)
    (hdoc : k ≠ .document) : k.IsSpelled := by
  have h := ordered_readMarkup s
  refine h.spelled n k (fun hroot => hdoc ?_) hk
  have hkroot := h.wellFormed.kind_root
  rw [hroot] at hk
  exact Option.some.inj (hk.symm.trans hkroot)

/-- Markup can say whatever has been read, if the text in `script` and `style` elements is plain. -/
theorem printable_readMarkup {s : String} (hraw : (readMarkup s).HasPlainRawText) :
    (readMarkup s).Printable where
  document n _ hk := by
    by_contra hne
    exact (ordered_readMarkup s).spelled n _ hne hk
  element n name a _ hk := by
    exact isSpelled_readMarkup hk (by simp)
  void n name a _ hk := (ordered_readMarkup s).void n name a hk
  comment n content _ hk := isSpelled_readMarkup hk (by simp)
  raw := hraw

/-- Whatever is read, no new node is ever refused, all nodes are live and connected, and document
    order is the order in which they were made. Names can stand in a tag, no two attributes of an
    element have the same name, void elements have no children, no text is empty, and no comment
    holds its own end. -/
theorem readMarkup_in_creation_order (s : String) :
    (∀ before after, tokens s.toList = before ++ after → ∀ k,
      let r := before.foldl Reading.add .start
      (Edit.appendChild r.parent r.document.nextId).run (r.document.push k) =
        .ok () (r.addNode k).document) ∧
    (∀ i < (readMarkup s).size,
      (readMarkup s).contains ⟨i⟩ = true ∧ (readMarkup s).isConnected ⟨i⟩ = true) ∧
    (readMarkup s).descendants root = (List.range' 1 ((readMarkup s).size - 1)).map NodeId.mk ∧
    (∀ n name a, (readMarkup s).kind? n = some (.element name a) →
      IsName name ∧ (∀ x ∈ a.names, IsName x) ∧ a.names.Nodup ∧
        (isVoid name = true → (readMarkup s).children n = [])) ∧
    (∀ n content, (readMarkup s).kind? n = some (.text content) → content ≠ "") ∧
    ∀ n content, (readMarkup s).kind? n = some (.comment content) → IsCommentText content := by
  have h := ordered_readMarkup s
  refine ⟨fun before after hsplit k => run_addNode (ordered_of_tokens hsplit).isOpen k,
    fun i hi => ⟨h.order.contains hi, ?_⟩, h.order.descendants_root, fun n name a hk => ?_,
    fun n content hk => isSpelled_readMarkup hk (by simp),
    fun n content hk => isSpelled_readMarkup hk (by simp)⟩
  · exact (Document.isConnected_iff h.wellFormed).mpr (h.order.connected i hi)
  · obtain ⟨hname, hnames⟩ := isSpelled_readMarkup hk (by simp)
    exact ⟨hname, hnames, a.canonical.nodup, h.void n name a hk⟩

end Markup

end AmpMarkup
