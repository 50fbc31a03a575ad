import AmpMarkup.Proofs.Document.Links

namespace AmpMarkup

open Document (root)

/-!
# Copying a subtree

A deep copy is made level by level, with a list of pairs of a node and its copy whose children are
still to be copied. Every link on the way is one that could have been made by attaching a node, so
each document in between is well-formed.

* `Added` — what putting a new node under another comes to.
* `ChildrenCopied` — what copying the children of one node comes to; `run_copyChildren`.
* `Pending` — what holds of the pairs still to be dealt with; `BelowCopied`, `run_copyBelow` — at
  the end each copy shows the tree of its original.
* `Copied`, `run_cloneNode` — a copy is a fresh node with the same tree, and nothing else changes.
-/

variable {d d' : Document} {m n p c : NodeId}

namespace Document

/-- A node without children is below nothing but what it is below itself. -/
theorem eq_of_below_bare (h : d.WellFormed) (hbare : d.children n = []) (hb : d.Below m n) :
    m = n := by
  rcases hb.cases_child h with heq | ⟨c, hc, -⟩
  · exact heq
  · rw [hbare] at hc
    exact absurd hc List.not_mem_nil

/-- A new node can be attached anywhere. -/
theorem attachable_nextId (h : d.WellFormed) {k : NodeKind} (hk : d.kind? p = some k)
    (hallows : k.allowsChildren = true) (k' : NodeKind) :
    Edit.Attachable (d.push k') p d.nextId := by
  have hp : p ≠ d.nextId := ne_nextId_of_contains (contains_of_kind? hk)
  refine Edit.attachable_of_not_below (h.push k') ⟨k, ?_, hallows⟩ ?_ ?_ ?_ fun hb => hp ?_
  · rw [kind?_push, if_neg hp, hk]
  · exact (ne_nextId_of_contains h.contains_root).symm
  · simp [contains_push]
  · rw [parent?_push, parent?_eq_none_of_not_contains not_contains_nextId]
  · refine eq_of_below_bare (h.push k') ?_ hb
    rw [children_push, children_nextId]

/-- `d'` is `d` with one new node, a last child of `p`. -/
structure Added (d d' : Document) (p : NodeId) (k : NodeKind) : Prop where
  wellFormed : d'.WellFormed
  size_eq : d'.size = d.size + 1
  same (m : NodeId) : m.index < d.size → m ≠ p → SameAt d d' m
  kind_parent : d'.kind? p = d.kind? p
  parent_parent : d'.parent? p = d.parent? p
  children_parent : d'.children p = d.children p ++ [d.nextId]
  kind_new : d'.kind? d.nextId = some k
  parent_new : d'.parent? d.nextId = some p
  children_new : d'.children d.nextId = []

/-- A new node is put under a node that takes children. -/
theorem added_attach (h : d.WellFormed) {kp : NodeKind} (hp : d.kind? p = some kp)
    (hallows : kp.allowsChildren = true) (k : NodeKind) :
    Added d ((d.push k).attach p d.nextId (· ++ [d.nextId])) p k := by
  have hatt : Edit.Attachable (d.push k) p d.nextId := attachable_nextId h hp hallows k
  have hpn : p ≠ d.nextId := ne_nextId_of_contains (contains_of_kind? hp)
  exact {
    wellFormed := (h.push k).attach hatt List.perm_append_comm
    size_eq := by rw [size_attach, size_push]
    same m hm hmp := (sameAt_push hm k).trans (sameAt_attach hmp (ne_nextId_of_lt hm) _)
    kind_parent := by rw [kind?_attach, kind?_push, if_neg hpn]
    parent_parent := by rw [parent?_attach hatt.contains, if_neg hpn, parent?_push]
    children_parent := by rw [children_attach hatt.contains_parent, if_pos rfl, children_push]
    kind_new := by rw [kind?_attach, kind?_nextId_push]
    parent_new := by rw [parent?_attach hatt.contains, if_pos rfl]
    children_new := by
      rw [children_attach hatt.contains_parent, if_neg (Ne.symm hpn), children_push,
        children_nextId] }

/-- What copying nodes as last children of `p` comes to; each pair is a node with its copy. -/
structure ChildrenCopied (d d' : Document) (p : NodeId) (pairs : List (NodeId × NodeId)) :
    Prop where
  wellFormed : d'.WellFormed
  size_eq : d'.size = d.size + pairs.length
  same : ∀ m, m.index < d.size → m ≠ p → SameAt d d' m
  kind_top : d'.kind? p = d.kind? p
  parent_top : d'.parent? p = d.parent? p
  children_top : d'.children p = d.children p ++ pairs.map Prod.snd
  kind_copy : ∀ e ∈ pairs, d'.kind? e.2 = d.kind? e.1
  bare_copy : ∀ e ∈ pairs, d'.children e.2 = []
  fresh_copy : ∀ e ∈ pairs, d.size ≤ e.2.index

namespace ChildrenCopied

variable {pairs pairs' : List (NodeId × NodeId)}

/-- Copying no nodes changes nothing. -/
theorem nil (h : d.WellFormed) : ChildrenCopied d d p [] where
  wellFormed := h
  size_eq := rfl
  same _ _ _ := rfl
  kind_top := rfl
  parent_top := rfl
  children_top := (List.append_nil _).symm
  kind_copy := by simp
  bare_copy := by simp
  fresh_copy := by simp

/-- A copy hangs under the node that it was made for. -/
theorem parent_copy (h : ChildrenCopied d d' p pairs) {e : NodeId × NodeId} (he : e ∈ pairs) :
    d'.parent? e.2 = some p := by
  refine h.wellFormed.parent_of_mem ?_
  rw [h.children_top]
  exact List.mem_append_right _ (List.mem_map_of_mem he)

/-- Some copies and then some more. -/
theorem append {d₁ : Document} (h : ChildrenCopied d d₁ p pairs)
    (h' : ChildrenCopied d₁ d' p pairs')
    (hold : ∀ e ∈ pairs', d.contains e.1 = true ∧ e.1 ≠ p) :
    ChildrenCopied d d' p (pairs ++ pairs') := by
  have hsize := h.size_eq
  have hsize' := h'.size_eq
  have hcopy : ∀ e ∈ pairs, SameAt d₁ d' e.2 := by
    intro e he
    have hpar := h.parent_copy he
    exact h'.same e.2 (index_lt_of_contains (contains_of_parent? hpar))
      (h.wellFormed.parent_ne hpar).symm
  exact {
    wellFormed := h'.wellFormed
    size_eq := by
      rw [List.length_append]
      omega
    same m hm hmp := (h.same m hm hmp).trans (h'.same m (by omega) hmp)
    kind_top := h'.kind_top.trans h.kind_top
    parent_top := h'.parent_top.trans h.parent_top
    children_top := by
      rw [h'.children_top, h.children_top, List.map_append, List.append_assoc]
    kind_copy e he := by
      rcases List.mem_append.mp he with he | he
      · rw [(hcopy e he).kind?, h.kind_copy e he]
      · obtain ⟨hcon, hne⟩ := hold e he
        rw [h'.kind_copy e he, (h.same e.1 (index_lt_of_contains hcon) hne).kind?]
    bare_copy e he := by
      rcases List.mem_append.mp he with he | he
      · rw [(hcopy e he).children, h.bare_copy e he]
      · exact h'.bare_copy e he
    fresh_copy e he := by
      rcases List.mem_append.mp he with he | he
      · exact h.fresh_copy e he
      · have := h'.fresh_copy e he
        omega }

end ChildrenCopied

/-- A new node of the kind of `n` at the end of `p` is a copy of `n`. -/
theorem childrenCopied_single (h : d.WellFormed) {k kp : NodeKind} (hn : d.kind? n = some k)
    (hp : d.kind? p = some kp) (hallows : kp.allowsChildren = true) :
    ChildrenCopied d ((d.push k).attach p d.nextId (· ++ [d.nextId])) p [(n, d.nextId)] := by
  have hadd := added_attach h hp hallows k
  exact {
    wellFormed := hadd.wellFormed
    size_eq := hadd.size_eq
    same := hadd.same
    kind_top := hadd.kind_parent
    parent_top := hadd.parent_parent
    children_top := hadd.children_parent
    kind_copy e he := by rw [List.mem_singleton.mp he, hadd.kind_new, hn]
    bare_copy e he := by rw [List.mem_singleton.mp he, hadd.children_new]
    fresh_copy e he := List.mem_singleton.mp he ▸ Nat.le_refl d.size }

end Document

namespace Edit

open Document

/-- Copies of some nodes are made and linked one after the other. -/
theorem run_copyChildren (h : d.WellFormed) (ks : List NodeId)
    (hks : ∀ k ∈ ks, d.contains k = true ∧ k ≠ p)
    (hallows : ks ≠ [] → ∃ k, d.kind? p = some k ∧ k.allowsChildren = true) :
    ∃ pairs d', (copyChildren p ks).run d = .ok pairs d' ∧ pairs.map Prod.fst = ks ∧
      ChildrenCopied d d' p pairs := by
  induction ks generalizing d with
  | nil => exact ⟨[], d, rfl, rfl, .nil h⟩
  | cons x rest ih =>
    obtain ⟨kp, hkp, hallows⟩ := hallows (List.cons_ne_nil _ _)
    obtain ⟨s, hs⟩ := contains_iff.mp (hks x List.mem_cons_self).1
    have hkx : d.kind? x = some s.kind := by simp [kind?, hs]
    have hatt : Attachable (d.push s.kind) p d.nextId := attachable_nextId h hkp hallows s.kind
    have hlink := run_link hatt.contains_parent hatt.contains
    have hc := childrenCopied_single h hkx hkp hallows
    set d₁ := (d.push s.kind).attach p d.nextId (· ++ [d.nextId])
    have hrest : ∀ y ∈ rest, d.contains y = true ∧ y ≠ p := fun y hy =>
      hks y (List.mem_cons_of_mem _ hy)
    have hrest₁ : ∀ y ∈ rest, d₁.contains y = true ∧ y ≠ p := by
      intro y hy
      obtain ⟨hcon, hne⟩ := hrest y hy
      exact ⟨(hc.same y (index_lt_of_contains hcon) hne).contains.trans hcon, hne⟩
    obtain ⟨pairs, d', hrun, hfst, hcopied⟩ :=
      ih hc.wellFormed hrest₁ fun _ => ⟨kp, hc.kind_top.trans hkp, hallows⟩
    refine ⟨(x, d.nextId) :: pairs, d', ?_, by rw [List.map_cons, hfst],
      hc.append hcopied fun e he => hrest e.1 (hfst ▸ List.mem_map_of_mem he)⟩
    rw [copyChildren, run_bind_ok (run_slot hs), run_bind_ok (run_create s.kind),
      run_bind_ok hlink, run_bind_ok hrun]
    rfl

end Edit

namespace Document

/-- What holds of the pairs of a node and its copy whose children are still to be copied. -/
structure Pending (d : Document) (pending : List (NodeId × NodeId)) : Prop where
  live : ∀ e ∈ pending, d.contains e.1 = true
  /-- The copy itself has been made, but has no children yet. -/
  kind : ∀ e ∈ pending, d.kind? e.2 = d.kind? e.1
  bare : ∀ e ∈ pending, d.children e.2 = []
  nodup : (pending.map Prod.snd).Nodup
  /-- No copy is among what is still to be copied. -/
  apart : ∀ e ∈ pending, ∀ e' ∈ pending, ¬ d.Below e'.2 e.1

namespace Pending

variable {pending : List (NodeId × NodeId)}

/-- A copy that waits for its children is live. -/
theorem contains_copy (h : d.Pending pending) {e : NodeId × NodeId} (he : e ∈ pending) :
    d.contains e.2 = true := by
  obtain ⟨k, hk⟩ := exists_kind? (h.live e he)
  exact contains_of_kind? ((h.kind e he).trans hk)

/-- No two originals have the same copy. -/
theorem copy_ne {rest : List (NodeId × NodeId)} (h : d.Pending ((n, c) :: rest))
    {e : NodeId × NodeId} (he : e ∈ rest) : e.2 ≠ c := by
  intro heq
  have hnd := h.nodup
  rw [List.map_cons, List.nodup_cons] at hnd
  exact hnd.1 (List.mem_map.mpr ⟨e, he, heq⟩)

/-- No slot of the subtree of an original changes while the children of one copy are made. -/
theorem same_of_below {e e' : NodeId × NodeId} {pairs : List (NodeId × NodeId)}
    (h : d.Pending pending) (he : e ∈ pending) (he' : e' ∈ pending)
    (hc : ChildrenCopied d d' e'.2 pairs) (hm : d.Below m e.1) : SameAt d d' m := by
  refine hc.same m (index_lt_of_contains (hm.contains_lower (h.live e he))) ?_
  rintro rfl
  exact h.apart e he e' he' hm

/-- Below an original nothing changes when the children of a copy are made. -/
theorem below_iff {e e' : NodeId × NodeId} {pairs : List (NodeId × NodeId)}
    (hwf : d.WellFormed) (h : d.Pending pending) (he : e ∈ pending) (he' : e' ∈ pending)
    (hc : ChildrenCopied d d' e'.2 pairs) (hn : d.Below n e.1) :
    d'.Below m n ↔ d.Below m n :=
  below_congr hwf hc.wellFormed fun _ hx =>
    (h.same_of_below he he' hc (hx.trans hn)).children

/-- Originals keep their trees while the children of one copy are made. -/
theorem tree_eq_of_below {e e' : NodeId × NodeId} {pairs : List (NodeId × NodeId)}
    (hwf : d.WellFormed) (h : d.Pending pending) (he : e ∈ pending) (he' : e' ∈ pending)
    (hc : ChildrenCopied d d' e'.2 pairs) (hn : d.Below n e.1) : d'.tree n = d.tree n := by
  refine tree_congr hwf hc.wellFormed fun m hm => ?_
  have hsame := h.same_of_below he he' hc (hm.trans hn)
  exact ⟨hsame.kind?, hsame.children⟩

/-- The subtree of an original stays the same when the children of a copy are made. -/
theorem subtree_eq_of_below {e e' : NodeId × NodeId} {pairs : List (NodeId × NodeId)}
    (hwf : d.WellFormed) (h : d.Pending pending) (he : e ∈ pending) (he' : e' ∈ pending)
    (hc : ChildrenCopied d d' e'.2 pairs) (hn : d.Below n e.1) : d'.subtree n = d.subtree n :=
  subtree_congr hwf hc.wellFormed fun _ hm =>
    (h.same_of_below he he' hc (hm.trans hn)).children

/-- After the children of the first copy have been made, they are what is still to be done. -/
theorem step {rest pairs : List (NodeId × NodeId)} (hwf : d.WellFormed)
    (h : d.Pending ((n, c) :: rest)) (hc : ChildrenCopied d d' c pairs)
    (hfst : pairs.map Prod.fst = d.children n) : d'.Pending (pairs.reverse ++ rest) := by
  have hhead : (n, c) ∈ (n, c) :: rest := List.mem_cons_self
  have htail : ∀ {e}, e ∈ rest → e ∈ (n, c) :: rest := List.mem_cons_of_mem _
  -- Every original is a child of `n` or one of those that were waiting already.
  have horig : ∀ e ∈ pairs.reverse ++ rest, ∃ e₀ ∈ (n, c) :: rest, d.Below e.1 e₀.1 := by
    intro e he
    rcases List.mem_append.mp he with he | he
    · refine ⟨_, hhead, below_of_parent (hwf.parent_of_mem ?_)⟩
      rw [← hfst]
      exact List.mem_map_of_mem (List.mem_reverse.mp he)
    · exact ⟨e, htail he, below_refl d _⟩
  have hsameCopy : ∀ {e}, e ∈ rest → SameAt d d' e.2 := fun he =>
    hc.same _ (index_lt_of_contains (h.contains_copy (htail he))) (h.copy_ne he)
  have hsame : ∀ e ∈ pairs.reverse ++ rest, SameAt d d' e.1 := by
    intro e he
    obtain ⟨e₀, he₀, hb⟩ := horig e he
    exact h.same_of_below he₀ hhead hc hb
  have hlive : ∀ e ∈ pairs.reverse ++ rest, d.contains e.1 = true := by
    intro e he
    obtain ⟨e₀, he₀, hb⟩ := horig e he
    exact hb.contains_lower (h.live e₀ he₀)
  exact {
    live e he := by rw [(hsame e he).contains, hlive e he]
    kind e he := by
      rw [(hsame e he).kind?]
      rcases List.mem_append.mp he with he | he
      · exact hc.kind_copy e (List.mem_reverse.mp he)
      · rw [(hsameCopy he).kind?, h.kind e (htail he)]
    bare e he := by
      rcases List.mem_append.mp he with he | he
      · exact hc.bare_copy e (List.mem_reverse.mp he)
      · rw [(hsameCopy he).children, h.bare e (htail he)]
    nodup := by
      rw [List.map_append, List.map_reverse, List.nodup_append]
      refine ⟨?_, (List.nodup_cons.mp h.nodup).2, ?_⟩
      · rw [List.nodup_reverse]
        have hnd := hc.wellFormed.nodup_children c
        rw [hc.children_top] at hnd
        exact (List.nodup_append.mp hnd).2.1
      · rintro a ha b hb rfl
        obtain ⟨e, he, rfl⟩ := List.mem_map.mp (List.mem_reverse.mp ha)
        obtain ⟨e', he', heq⟩ := List.mem_map.mp hb
        have hlt := index_lt_of_contains (h.contains_copy (htail he'))
        have hge := hc.fresh_copy e he
        rw [heq] at hlt
        omega
    apart e he e' he' hb := by
      obtain ⟨e₀, he₀, hb₀⟩ := horig e he
      rw [h.below_iff hwf he₀ hhead hc hb₀] at hb
      rcases List.mem_append.mp he' with he' | he'
      · have hlt := index_lt_of_contains (hb.contains_lower (hlive e he))
        have hge := hc.fresh_copy e' (List.mem_reverse.mp he')
        omega
      · exact h.apart e₀ he₀ e' (htail he') (hb.trans hb₀) }

end Pending

/-- The number of nodes that are still to be looked at. -/
def pendingSize (d : Document) (pending : List (NodeId × NodeId)) : Nat :=
  (pending.flatMap fun e => d.subtree e.1).length

/-- With the children of one copy there is one node less to be looked at. -/
theorem Pending.pendingSize_step {rest pairs : List (NodeId × NodeId)} (hwf : d.WellFormed)
    (h : d.Pending ((n, c) :: rest)) (hc : ChildrenCopied d d' c pairs)
    (hfst : pairs.map Prod.fst = d.children n) :
    d'.pendingSize (pairs.reverse ++ rest) + 1 = d.pendingSize ((n, c) :: rest) := by
  have hhead : (n, c) ∈ (n, c) :: rest := List.mem_cons_self
  have hpairs : pairs.map (fun e => (d'.subtree e.1).length) =
      (d.children n).map fun x => (d.subtree x).length := by
    rw [← hfst, List.map_map]
    refine List.map_congr_left fun e he => ?_
    have hbelow : d.Below e.1 n :=
      below_of_parent (hwf.parent_of_mem (hfst ▸ List.mem_map_of_mem he))
    rw [h.subtree_eq_of_below hwf hhead hhead hc hbelow]
    rfl
  have hrest : rest.map (fun e => (d'.subtree e.1).length) =
      rest.map fun e => (d.subtree e.1).length := by
    refine List.map_congr_left fun e he => ?_
    rw [h.subtree_eq_of_below hwf (List.mem_cons_of_mem _ he) hhead hc (below_refl d _)]
  simp only [pendingSize, List.length_flatMap, List.map_append, List.map_reverse,
    List.sum_append, List.sum_reverse, List.map_cons, List.sum_cons, hpairs, hrest]
  rw [subtree_eq hwf n, List.length_cons, List.length_flatMap]
  omega

/-- What completing all copies comes to. -/
structure BelowCopied (d d' : Document) (pending : List (NodeId × NodeId)) : Prop where
  wellFormed : d'.WellFormed
  size_eq : d'.size + pending.length = d.size + d.pendingSize pending
  same (m : NodeId) : m.index < d.size → m ∉ pending.map Prod.snd → SameAt d d' m
  kind : ∀ e ∈ pending, d'.kind? e.2 = d.kind? e.2
  parent : ∀ e ∈ pending, d'.parent? e.2 = d.parent? e.2
  tree : ∀ e ∈ pending, d'.tree e.2 = d.tree e.1

/-- If nothing is to be completed then nothing changes. -/
theorem BelowCopied.nil (h : d.WellFormed) : BelowCopied d d [] where
  wellFormed := h
  size_eq := rfl
  same _ _ _ := rfl
  kind := by simp
  parent := by simp
  tree := by simp

/-- The children of the first copy, and then all that is still to be done. -/
theorem BelowCopied.cons {d₁ : Document} {rest pairs : List (NodeId × NodeId)} (hwf : d.WellFormed)
    (hp : d.Pending ((n, c) :: rest)) (hc : ChildrenCopied d d₁ c pairs)
    (hfst : pairs.map Prod.fst = d.children n) (h : BelowCopied d₁ d' (pairs.reverse ++ rest)) :
    BelowCopied d d' ((n, c) :: rest) := by
  have hhead : (n, c) ∈ (n, c) :: rest := List.mem_cons_self
  have htail : ∀ {e}, e ∈ rest → e ∈ (n, c) :: rest := List.mem_cons_of_mem _
  have hold : ∀ m, m.index < d.size → m ∉ rest.map Prod.snd → SameAt d₁ d' m := by
    intro m hm hmem
    refine h.same m (by rw [hc.size_eq]; omega) ?_
    rw [List.map_append, List.mem_append, List.map_reverse, List.mem_reverse, not_or]
    refine ⟨fun hmem' => ?_, hmem⟩
    obtain ⟨e, he, rfl⟩ := List.mem_map.mp hmem'
    have := hc.fresh_copy e he
    omega
  -- The list of the first copy is complete, and so are the copies in it.
  have hctop : SameAt d₁ d' c := by
    refine hold c (index_lt_of_contains (hp.contains_copy hhead)) fun hmem => ?_
    obtain ⟨e, he, heq⟩ := List.mem_map.mp hmem
    exact hp.copy_ne he heq
  have hsame : ∀ e ∈ rest, SameAt d d₁ e.2 := fun e he =>
    hc.same e.2 (index_lt_of_contains (hp.contains_copy (htail he))) (hp.copy_ne he)
  exact {
    wellFormed := h.wellFormed
    size_eq := by
      have hsize := h.size_eq
      have := hc.size_eq
      have := hp.pendingSize_step hwf hc hfst
      rw [List.length_append, List.length_reverse] at hsize
      rw [List.length_cons]
      omega
    same m hm hmem := by
      rw [List.map_cons, List.mem_cons, not_or] at hmem
      exact (hc.same m hm hmem.1).trans (hold m hm hmem.2)
    kind e he := by
      rcases List.mem_cons.mp he with rfl | he
      · exact hctop.kind?.trans hc.kind_top
      · exact (h.kind e (List.mem_append_right _ he)).trans (hsame e he).kind?
    parent e he := by
      rcases List.mem_cons.mp he with rfl | he
      · exact hctop.parent?.trans hc.parent_top
      · exact (h.parent e (List.mem_append_right _ he)).trans (hsame e he).parent?
    tree e he := by
      rcases List.mem_cons.mp he with rfl | he
      · rw [tree_eq h.wellFormed, tree_eq hwf, hctop.kind?, hc.kind_top, hp.kind _ hhead,
          hctop.children, hc.children_top, hp.bare _ hhead, List.nil_append, ← hfst, List.map_map,
          List.map_map]
        congr 1
        refine List.map_congr_left fun e he => ?_
        have hbelow : d.Below e.1 n :=
          below_of_parent (hwf.parent_of_mem (hfst ▸ List.mem_map_of_mem he))
        exact (h.tree e (List.mem_append_left _ (List.mem_reverse.mpr he))).trans
          (hp.tree_eq_of_below hwf hhead hhead hc hbelow)
      · exact (h.tree e (List.mem_append_right _ he)).trans
          (hp.tree_eq_of_below hwf (htail he) hhead hc (below_refl d _)) }

end Document

namespace Edit

open Document

/-- At the end every copy shows the tree of its original, and nothing else has changed. -/
theorem run_copyBelow (fuel : Nat) {pending : List (NodeId × NodeId)} (h : d.WellFormed)
    (hp : d.Pending pending) (hfuel : d.pendingSize pending ≤ fuel) :
    ∃ d', (copyBelow fuel pending).run d = .ok () d' ∧ BelowCopied d d' pending := by
  induction fuel generalizing d pending with
  | zero =>
    cases pending with
    | nil => exact ⟨d, rfl, .nil h⟩
    | cons e rest =>
      rw [pendingSize, List.flatMap_cons, subtree_eq h] at hfuel
      simp at hfuel
  | succ fuel ih =>
    cases pending with
    | nil => exact ⟨d, rfl, .nil h⟩
    | cons e rest =>
      obtain ⟨n, c⟩ := e
      have hhead : (n, c) ∈ (n, c) :: rest := List.mem_cons_self
      obtain ⟨s, hs⟩ := contains_iff.mp (hp.live _ hhead)
      have hch : s.children = d.children n := by simp [children, hs]
      have hkn : d.kind? n = some s.kind := by simp [kind?, hs]
      -- The children of `n` are copied first.
      obtain ⟨pairs, d₁, hrun₁, hfst, hc⟩ := run_copyChildren (p := c) h (d.children n)
        (fun k hk => by
          refine ⟨h.contains_child hk, fun heq => hp.apart _ hhead _ hhead ?_⟩
          exact heq ▸ below_of_parent (h.parent_of_mem hk))
        (fun hne => by
          refine ⟨s.kind, (hp.kind _ hhead).trans hkn, ?_⟩
          rw [← Bool.not_eq_false]
          exact fun hleaf => hne (h.children_leaf n s.kind hkn hleaf))
      have hsize := hp.pendingSize_step h hc hfst
      obtain ⟨d', hrun, hd'⟩ := ih hc.wellFormed (hp.step h hc hfst) (by omega)
      refine ⟨d', ?_, .cons h hp hc hfst hd'⟩
      rw [copyBelow, run_bind_ok (run_slot hs), hch, run_bind_ok hrun₁, hrun]

end Edit

namespace Document

/-- `copy` is a new node of `d'` that shows the tree of `n`, and nothing else has changed. -/
structure Copied (d d' : Document) (n copy : NodeId) : Prop where
  wellFormed : d'.WellFormed
  size_eq : d'.size = d.size + (d.subtree n).length
  copy_eq : copy = d.nextId
  same : ∀ m, m.index < d.size → SameAt d d' m
  kind : d'.kind? copy = d.kind? n
  detached : d'.parent? copy = none
  tree : d'.tree copy = d.tree n

/-- What is below a copy is new. -/
theorem Copied.size_le_of_below (hc : Copied d d' n c) (h : d.WellFormed) (hm : d'.Below m c) :
    d.size ≤ m.index := by
  -- An old node has its old parent, so going up from it one stays among the old nodes.
  induction hm using Relation.ReflTransGen.head_induction_on with
  | refl => exact hc.copy_eq ▸ Nat.le_refl d.size
  | @head m q hq _ ih =>
    by_contra hlt
    have hold : d.parent? m = some q := (hc.same m (Nat.lt_of_not_le hlt)).parent?.symm.trans hq
    exact absurd (index_lt_of_contains (h.contains_parent hold)) (Nat.not_lt.mpr ih)

/-- The nodes of the copy are the new slots, each of them once: there are as many. -/
theorem Copied.perm_index (hc : Copied d d' n c) (h : d.WellFormed) (hn : d.contains n = true) :
    ((d'.subtree c).map NodeId.index).Perm (List.range' d.size (d.subtree n).length) := by
  obtain ⟨k, hk⟩ := exists_kind? hn
  have hlive : d'.contains c = true := contains_of_kind? (hc.kind.trans hk)
  have hsub : (d'.subtree c).map NodeId.index ⊆ List.range' d.size (d.subtree n).length := by
    intro i hi
    obtain ⟨x, hx, rfl⟩ := List.mem_map.mp hi
    have hxc := (mem_subtree_iff hc.wellFormed).mp hx
    have hlt := index_lt_of_contains (hxc.contains_lower hlive)
    have hle := hc.size_le_of_below h hxc
    have hsize := hc.size_eq
    exact List.mem_range'_1.mpr ⟨hle, by omega⟩
  have hnd : ((d'.subtree c).map NodeId.index).Nodup :=
    (nodup_subtree hc.wellFormed c).map fun a b hab => congrArg NodeId.mk hab
  refine (hnd.subperm hsub).perm_of_length_le (Nat.le_of_eq ?_)
  rw [List.length_range', List.length_map, ← size_tree hc.wellFormed, hc.tree, size_tree h]

/-- All that is new is below the copy. -/
theorem Copied.below_of_size_le (hc : Copied d d' n c) (h : d.WellFormed)
    (hn : d.contains n = true) (hm : d.size ≤ m.index) (hcon : d'.contains m = true) :
    d'.Below m c := by
  have hmem : m.index ∈ List.range' d.size (d.subtree n).length := by
    have hlt := index_lt_of_contains hcon
    rw [hc.size_eq] at hlt
    exact List.mem_range'_1.mpr ⟨hm, hlt⟩
  obtain ⟨x, hx, hxm⟩ := List.mem_map.mp ((hc.perm_index h hn).mem_iff.mpr hmem)
  have heq : x = m := congrArg NodeId.mk hxm
  exact heq ▸ (mem_subtree_iff hc.wellFormed).mp hx

/-- A new node is in no tree that has been there before. -/
theorem tree_push (h : d.WellFormed) (hn : d.contains n = true) (k : NodeKind) :
    (d.push k).tree n = d.tree n := by
  refine tree_congr h (h.push k) fun m hm => ⟨?_, children_push k⟩
  exact (sameAt_push (index_lt_of_contains (hm.contains_lower hn)) k).kind?

/-! ### The start -/

variable {k : NodeKind}

/-- After a node of the kind of `n` has been made, it is what is still to be completed. -/
theorem pending_push (hk : d.kind? n = some k) :
    (d.push k).Pending [(n, d.nextId)] := by
  have hn : d.contains n = true := contains_of_kind? hk
  have hne : n ≠ d.nextId := ne_nextId_of_contains hn
  have hbare : (d.push k).children d.nextId = [] := by rw [children_push, children_nextId]
  have hbelow : (d.push k).Below d.nextId n → d.nextId = n := fun hb => by
    rcases hb.cases_parent with heq | ⟨p, hp, -⟩
    · exact heq
    · rw [parent?_push, parent?_eq_none_of_not_contains not_contains_nextId] at hp
      cases hp
  exact {
    live := by simp [contains_push, hn]
    kind := by simp [kind?_push, hne, hk]
    bare := by simpa using hbare
    nodup := List.nodup_singleton _
    apart := by simpa using fun hb => hne (hbelow hb).symm }

/-- The whole subtree has to be copied. -/
theorem pendingSize_push (h : d.WellFormed) (k : NodeKind) :
    (d.push k).pendingSize [(n, d.nextId)] = (d.subtree n).length := by
  rw [pendingSize, List.flatMap_singleton, subtree_congr h (h.push k) fun _ _ => children_push k]

/-- The completed copy, as seen from the document before its top was made. -/
theorem Copied.of_belowCopied (h : d.WellFormed) (hk : d.kind? n = some k)
    (hd' : BelowCopied (d.push k) d' [(n, d.nextId)]) : Copied d d' n d.nextId where
  wellFormed := hd'.wellFormed
  size_eq := by
    have hsize := hd'.size_eq
    rw [pendingSize_push h, size_push, List.length_singleton] at hsize
    omega
  copy_eq := rfl
  same m hm := by
    refine (sameAt_push hm k).trans (hd'.same m ?_ ?_)
    · rw [size_push]
      omega
    · simpa using ne_nextId_of_lt hm
  kind := by rw [hd'.kind _ List.mem_cons_self, kind?_nextId_push, hk]
  detached := by
    rw [hd'.parent _ List.mem_cons_self, parent?_push,
      parent?_eq_none_of_not_contains not_contains_nextId]
  tree := by rw [hd'.tree _ List.mem_cons_self, tree_push h (contains_of_kind? hk)]

end Document

namespace Edit

open Document

/-- A copy of a single node. -/
theorem run_cloneNode_shallow {k : NodeKind} (hk : d.kind? n = some k) :
    (cloneNode n false).run d = .ok d.nextId (d.push k) := by
  have hs := slot?_eq_of_kind? hk
  rw [cloneNode, run_bind_ok (EStateM.run_get d)]
  dsimp only
  rw [run_bind_ok (run_slot hs), run_bind_ok (run_create k)]
  rfl

/-- A copy of a whole subtree. -/
theorem run_cloneNode (h : d.WellFormed) (hn : d.contains n = true) :
    ∃ d', (cloneNode n true).run d = .ok d.nextId d' ∧ Copied d d' n d.nextId := by
  obtain ⟨s, hs⟩ := contains_iff.mp hn
  have hk : d.kind? n = some s.kind := by simp [kind?, hs]
  have hfuel : (d.push s.kind).pendingSize [(n, d.nextId)] ≤ d.size := by
    rw [pendingSize_push h]
    exact length_subtree_le h hn
  obtain ⟨d', hrun, hd'⟩ := run_copyBelow d.size (h.push s.kind) (pending_push hk) hfuel
  refine ⟨d', ?_, .of_belowCopied h hk hd'⟩
  rw [cloneNode, run_bind_ok (EStateM.run_get d)]
  dsimp only
  rw [run_bind_ok (run_slot hs), run_bind_ok (run_create s.kind), if_pos rfl, run_bind_ok hrun]
  rfl

/-- Copying a node keeps the links in order, whether the copy is deep or not. -/
theorem keeps_wellFormed_cloneNode (n : NodeId) (deep : Bool) :
    Keeps Document.WellFormed (cloneNode n deep) := by
  intro d h
  cases hs : d.slot? n with
  | none =>
    have hrun : (cloneNode n deep).run d = .error (.missingNode n) d := by
      rw [cloneNode, run_bind_ok (EStateM.run_get d)]
      dsimp only
      rw [run_bind_error (run_slot_of_none hs)]
    rwa [exec_of_error hrun]
  | some s =>
    have hk : d.kind? n = some s.kind := by simp [kind?, hs]
    cases deep with
    | false =>
      rw [exec_of_ok (run_cloneNode_shallow hk)]
      exact h.push s.kind
    | true =>
      obtain ⟨d', hrun, hc⟩ := run_cloneNode h (contains_of_kind? hk)
      rw [exec_of_ok hrun]
      exact hc.wellFormed

end Edit

end AmpMarkup
