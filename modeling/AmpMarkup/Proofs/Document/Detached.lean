import AmpMarkup.Proofs.Document.Copy
import AmpMarkup.Proofs.Document.Discard

namespace AmpMarkup

open Document (root)

/-!
# Detached nodes

A conversion works on nodes that have been taken out of their parents. Such nodes are at the tops
of trees that have no node in common, so what is done to one of them cannot be seen in another.

* `Loose d c` — `c` is live and hangs nowhere; `Below.eq_of_detached` — nothing is above it.
* `tree_eq_of_same`, `tree_mapAttributes` — trees before and after a change.
* `ChildrenDetached`, `Edit.run_detachChildren` — the children of a node become loose.
* `AllDiscarded`, `Edit.run_discardAll` — loose nodes are discarded with their trees.
-/

variable {d d' : Document} {m n p c : NodeId}

namespace Document

/-- A live node other than the root that hangs nowhere. -/
structure Loose (d : Document) (c : NodeId) : Prop where
  ne_root : c ≠ root
  contains : d.contains c = true
  detached : d.parent? c = none

/-! ### Nothing is above a detached node -/

/-- Nothing else is above a detached node. -/
theorem Below.eq_of_detached (h : d.Below m n) (hm : d.parent? m = none) : m = n := by
  rcases h.cases_parent with heq | ⟨p, hp, -⟩
  · exact heq
  · rw [hm] at hp
    cases hp

/-- Detached trees do not overlap. -/
theorem Below.not_below_of_detached (h : d.Below m n) (hn : d.parent? n = none)
    (hc : d.parent? c = none) (hne : n ≠ c) : ¬ d.Below m c := by
  intro hmc
  rcases h.total hmc with hnc | hcn
  · exact hne (hnc.eq_of_detached hn)
  · exact hne (hcn.eq_of_detached hc).symm

namespace Loose

/-- A loose node whose slot is kept stays loose. -/
theorem of_sameAt (h : d.Loose c) (hsame : SameAt d d' c) : d'.Loose c :=
  ⟨h.ne_root, hsame.contains.trans h.contains, hsame.parent?.trans h.detached⟩

/-- A loose node is below no other node. -/
theorem not_below (h : d.Loose c) (hne : c ≠ n) : ¬ d.Below c n :=
  fun hb => hne (hb.eq_of_detached h.detached)

/-- A loose node has nothing of the tree of the document below it. -/
theorem not_below_of_connected (h : d.Loose c) (hwf : d.WellFormed) (hn : d.Below n root) :
    ¬ d.Below n c := by
  intro hb
  rcases hn.total hb with hrc | hcr
  · exact h.ne_root (hrc.eq_of_detached hwf.parent_root).symm
  · exact h.ne_root (hcr.eq_of_detached h.detached)

/-- A loose node can be put under every node that is not below it and takes children. -/
theorem attachable (h : d.Loose c) (hwf : d.WellFormed) {k : NodeKind} (hk : d.kind? p = some k)
    (hallows : k.allowsChildren = true) (hnb : ¬ d.Below p c) : Edit.Attachable d p c :=
  Edit.attachable_of_not_below hwf ⟨k, hk, hallows⟩ h.ne_root h.contains h.detached hnb

end Loose

/-! ### A new node -/

/-- A loose node is loose when there is one more node. -/
theorem Loose.push (h : d.Loose c) (k : NodeKind) : (d.push k).Loose c :=
  h.of_sameAt (sameAt_push (index_lt_of_contains h.contains) k)

/-- A new node is loose. -/
theorem loose_nextId (hwf : d.WellFormed) (k : NodeKind) : (d.push k).Loose d.nextId := by
  refine ⟨(ne_nextId_of_contains hwf.contains_root).symm, by simp [contains_push], ?_⟩
  rw [parent?_push, parent?_eq_none_of_not_contains not_contains_nextId]

/-! ### What is loose -/

/-- Below a node with a parent nothing is loose. -/
theorem Below.not_loose (h : d.Below m n) (hp : d.parent? n = some p) : ¬ d.Loose m := by
  intro hm
  rw [← h.eq_of_detached hm.detached, hm.detached] at hp
  cases hp

/-- A copy of a live node is loose. -/
theorem Copied.loose (h : Copied d d' n c) (hwf : d.WellFormed) (hn : d.contains n = true) :
    d'.Loose c := by
  obtain ⟨k, hk⟩ := exists_kind? hn
  refine ⟨?_, contains_of_kind? (h.kind.trans hk), h.detached⟩
  rw [h.copy_eq]
  exact (ne_nextId_of_contains hwf.contains_root).symm

/-! ### Trees before and after a change -/

/-- The same slots below a node show the same tree. -/
theorem tree_eq_of_same (hwf : d.WellFormed) (hwf' : d'.WellFormed)
    (hsame : ∀ m, d.Below m n → SameAt d d' m) : d'.tree n = d.tree n :=
  tree_congr hwf hwf' fun m hm => ⟨(hsame m hm).kind?, (hsame m hm).children⟩

/-- The same slots below a node have the same nodes below it. -/
theorem below_iff_of_same (hwf : d.WellFormed) (hwf' : d'.WellFormed)
    (hsame : ∀ m, d.Below m n → SameAt d d' m) : d'.Below m n ↔ d.Below m n :=
  below_congr hwf hwf' fun m hm => (hsame m hm).children

/-- A live node is what its tree shows. -/
theorem kind?_of_tree_eq {k : NodeKind} {ts : List Tree} (hwf : d.WellFormed)
    (hn : d.contains n = true) (ht : d.tree n = .node k ts) :
    d.kind? n = some k ∧ (d.children n).map d.tree = ts := by
  obtain ⟨k', hk'⟩ := exists_kind? hn
  rw [tree_kind hwf hk', Tree.node.injEq] at ht
  exact ⟨ht.1 ▸ hk', ht.2⟩

/-- Other attributes of a node are not seen in the trees that it is not in. -/
theorem tree_mapAttributes_of_not_below (hwf : d.WellFormed) (hn : d.contains n = true)
    (h : ¬ d.Below n m) (f : Attributes → Attributes) :
    (d.mapKind n (·.mapAttributes f)).tree m = d.tree m := by
  refine tree_eq_of_same hwf (hwf.mapAttributes hn f) fun x hx => sameAt_mapKind ?_ _
  rintro rfl
  exact h hx

/-- Other attributes at the top of a tree leave the rest of it alone. -/
theorem tree_mapAttributes (hwf : d.WellFormed) (hn : d.contains n = true)
    (f : Attributes → Attributes) :
    (d.mapKind n (·.mapAttributes f)).tree n = (d.tree n).mapAttributes f := by
  obtain ⟨k, hk⟩ := exists_kind? hn
  have hk' : (d.mapKind n (·.mapAttributes f)).kind? n = some (k.mapAttributes f) := by
    rw [kind?_mapKind, if_pos rfl, hk, Option.map_some]
  rw [tree_kind hwf hk, tree_kind (hwf.mapAttributes hn f) hk', children_mapKind,
    Tree.mapAttributes]
  congr 1
  exact List.map_congr_left fun c hc => tree_mapAttributes_of_not_below hwf hn
    (hwf.not_below_of_parent (hwf.parent_of_mem hc)) f

/-- Without its first child a node has the others. -/
theorem WellFormed.children_unlink_head (h : d.WellFormed) {rest : List NodeId}
    (hl : d.children n = c :: rest) : (d.unlink n c).children n = rest := by
  have hc : c ∉ rest := (List.nodup_cons.mp (hl ▸ h.nodup_children n)).1
  rw [children_unlink, if_pos rfl, hl]
  exact filter_ne_append_cons List.not_mem_nil hc

/-- What taking all children out of `n` comes to. -/
structure ChildrenDetached (d d' : Document) (n : NodeId) : Prop where
  wellFormed : d'.WellFormed
  size_eq : d'.size = d.size
  kind (m : NodeId) : d'.kind? m = d.kind? m
  parent_top : d'.parent? n = d.parent? n
  bare : d'.children n = []
  children (m : NodeId) : m ≠ n → d'.children m = d.children m
  loose : ∀ c ∈ d.children n, d'.Loose c
  same (m : NodeId) : m ≠ n → m ∉ d.children n → SameAt d d' m

namespace ChildrenDetached

/-- A node without children has none to take out. -/
theorem nil (h : d.WellFormed) (hl : d.children n = []) : ChildrenDetached d d n where
  wellFormed := h
  size_eq := rfl
  kind _ := rfl
  parent_top := rfl
  bare := hl
  children _ _ := rfl
  loose _ hc := absurd (hl ▸ hc) List.not_mem_nil
  same _ _ _ := rfl

/-- The first child and then the others. -/
theorem cons {rest : List NodeId} (h : d.WellFormed) (hl : d.children n = c :: rest)
    (h' : ChildrenDetached (d.unlink n c) d' n) : ChildrenDetached d d' n := by
  have hp : d.parent? c = some n := h.parent_of_mem (hl ▸ List.mem_cons_self)
  have hcon : d.contains c = true := contains_of_parent? hp
  have hnc : n ≠ c := h.parent_ne hp
  have hrest : (d.unlink n c).children n = rest := h.children_unlink_head hl
  have hself : SameAt (d.unlink n c) d' c :=
    h'.same c (Ne.symm hnc) (hrest ▸ (List.nodup_cons.mp (hl ▸ h.nodup_children n)).1)
  exact {
    wellFormed := h'.wellFormed
    size_eq := h'.size_eq.trans size_unlink
    kind m := by rw [h'.kind, kind?_unlink]
    parent_top := by rw [h'.parent_top, parent?_unlink hcon, if_neg hnc]
    bare := h'.bare
    children m hm := by rw [h'.children m hm, children_unlink, if_neg hm]
    loose x hx := by
      rw [hl, List.mem_cons] at hx
      rcases hx with rfl | hx
      · refine ⟨h.ne_root_of_parent hp, ?_, ?_⟩
        · rw [hself.contains, contains_unlink, hcon]
        · rw [hself.parent?, parent?_unlink hcon, if_pos rfl]
      · exact h'.loose x (hrest ▸ hx)
    same m hm hmem := by
      rw [hl, List.mem_cons, not_or] at hmem
      exact (sameAt_unlink hm hmem.1).trans (h'.same m hm (hrest ▸ hmem.2)) }

end ChildrenDetached

/-- What discarding the loose nodes `cs` comes to. -/
structure AllDiscarded (d d' : Document) (cs : List NodeId) : Prop where
  wellFormed : d'.WellFormed
  size_eq : d'.size = d.size
  gone : ∀ c ∈ cs, ∀ m, d.Below m c → d'.contains m = false
  same (m : NodeId) : (∀ c ∈ cs, ¬ d.Below m c) → SameAt d d' m

/-- Discarding a loose node leaves the trees of the others as they are. -/
theorem below_without_iff (h : d.WellFormed) (hc : d.Loose c) {x : NodeId} (hx : d.Loose x)
    (hne : x ≠ c) : (d.without c).Below m x ↔ d.Below m x := by
  refine below_congr h (h.without hc.ne_root hc.contains) fun y hy => SameAt.children ?_
  exact sameAt_without h (hy.not_below_of_detached hx.detached hc.detached hne)
    (by simp [hc.detached])

/-- It leaves the others loose as well. -/
theorem loose_without (h : d.WellFormed) (hc : d.Loose c) {x : NodeId} (hx : d.Loose x)
    (hne : x ≠ c) : (d.without c).Loose x :=
  hx.of_sameAt (sameAt_without h (hx.not_below hne) (by simp [hc.detached]))

namespace AllDiscarded

/-- If no node is discarded then nothing changes. -/
theorem nil (h : d.WellFormed) : AllDiscarded d d [] where
  wellFormed := h
  size_eq := rfl
  gone _ hc := absurd hc List.not_mem_nil
  same _ _ := rfl

/-- The first node and then the others. -/
theorem cons {rest : List NodeId} (h : d.WellFormed) (hc : d.Loose c)
    (hrest : ∀ x ∈ rest, d.Loose x) (hmem : c ∉ rest)
    (h' : AllDiscarded (d.without c) d' rest) : AllDiscarded d d' (c :: rest) := by
  have hne : ∀ x ∈ rest, x ≠ c := fun x hx heq => hmem (heq ▸ hx)
  have hbelow : ∀ x ∈ rest, ∀ m, (d.without c).Below m x ↔ d.Below m x := fun x hx m =>
    below_without_iff h hc (hrest x hx) (hne x hx)
  exact {
    wellFormed := h'.wellFormed
    size_eq := h'.size_eq.trans size_without
    gone x hx m hm := by
      rcases List.mem_cons.mp hx with rfl | hx
      · rw [(h'.same m fun y hy hmy => ?_).contains, not_contains_without h hm]
        exact hm.not_below_of_detached hc.detached (hrest y hy).detached (Ne.symm (hne y hy))
          ((hbelow y hy m).mp hmy)
      · exact h'.gone x hx m ((hbelow x hx m).mpr hm)
    same m hm := by
      refine (sameAt_without h (hm c List.mem_cons_self) (by simp [hc.detached])).trans
        (h'.same m fun x hx hmx => ?_)
      exact hm x (List.mem_cons_of_mem _ hx) ((hbelow x hx m).mp hmx) }

end AllDiscarded

end Document

namespace Edit

open Document

/-- Taking all children out of a node never fails. -/
theorem run_detachChildren (h : d.WellFormed) :
    ∃ d', (detachChildren n).run d = .ok (d.children n) d' ∧ ChildrenDetached d d' n := by
  -- The list that is still to be dealt with is always the list of all children that are left.
  have key : ∀ (l : List NodeId) (d : Document), d.WellFormed → d.children n = l →
      ∃ d', (l.mapM (removeChild n)).run d = .ok l d' ∧ ChildrenDetached d d' n := by
    intro l
    induction l with
    | nil => exact fun d h hl => ⟨d, rfl, .nil h hl⟩
    | cons c rest ih =>
      intro d h hl
      have hp : d.parent? c = some n := h.parent_of_mem (hl ▸ List.mem_cons_self)
      obtain ⟨d', hrun, hd'⟩ := ih (d.unlink n c) (h.unlink hp) (h.children_unlink_head hl)
      refine ⟨d', ?_, .cons h hl hd'⟩
      rw [List.mapM_cons, run_bind_ok (run_removeChild hp (h.contains_parent hp)),
        run_bind_ok hrun]
      rfl
  exact key _ d h rfl

/-- Loose nodes are discarded one after the other, each with what is below it. -/
theorem run_discardAll {cs : List NodeId} (h : d.WellFormed) (hcs : ∀ c ∈ cs, d.Loose c)
    (hnd : cs.Nodup) : ∃ d', (cs.forM discard).run d = .ok () d' ∧ AllDiscarded d d' cs := by
  induction cs generalizing d with
  | nil => exact ⟨d, rfl, .nil h⟩
  | cons c rest ih =>
    obtain ⟨hmem, hnd⟩ := List.nodup_cons.mp hnd
    have hc := hcs c List.mem_cons_self
    have hrest : ∀ x ∈ rest, d.Loose x := fun x hx => hcs x (List.mem_cons_of_mem _ hx)
    obtain ⟨d', hrun, hd'⟩ := ih (h.without hc.ne_root hc.contains)
      (fun x hx => loose_without h hc (hrest x hx) fun heq => hmem (heq ▸ hx)) hnd
    refine ⟨d', ?_, .cons h hc hrest hmem hd'⟩
    show ((discard c >>= fun _ => rest.forM discard).run d) = _
    rw [run_bind_ok (run_discard h hc.ne_root hc.contains), hrun]

end Edit

end AmpMarkup
