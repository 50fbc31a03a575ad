import AmpMarkup.Proofs.Document.Links

namespace AmpMarkup

open Document (root)
open Relation (TransGen)

/-!
# Discarding a subtree

A node is discarded by taking it out of its parent and freeing slot after slot. In between the
links contradict each other, so what the loop does is said on arbitrary documents, and
well-formedness comes back at its end.

* `run_freeAll` — the loop frees the nodes that a walk over the document would visit.
* `Document.without d n` — the document without the subtree of `n`; `slot?_without`.
* `WellFormed.without` — it is well-formed.
* `run_discard`, `discard_cases` — discarding gives this document, or changes nothing.
-/

variable {d d' : Document} {m n p c : NodeId}

namespace Document

/-! ### Freeing several slots -/

/-- The slots of the list given up. -/
def freed (d : Document) (ns : List NodeId) : Document := ns.foldl free d

/-- Of some nodes that have been freed none has a slot, and all others keep theirs. -/
theorem slot?_freed {ns : List NodeId} :
    (d.freed ns).slot? m = if m ∈ ns then none else d.slot? m := by
  induction ns generalizing d with
  | nil => simp [freed]
  | cons n rest ih =>
    have hstep : d.freed (n :: rest) = (d.free n).freed rest := rfl
    rw [hstep, ih, slot?_free]
    by_cases hm : m ∈ rest
    · rw [if_pos hm, if_pos (List.mem_cons_of_mem _ hm)]
    · by_cases hn : m = n <;> simp [hm, hn]

@[simp] theorem size_freed {ns : List NodeId} : (d.freed ns).size = d.size := by
  induction ns generalizing d with
  | nil => rfl
  | cons n rest ih => exact (ih (d := d.free n)).trans size_free

/-- A live slot that is given up is emptied. -/
theorem Emptied.free (h : d.Emptied) (hn : d.contains n = true) : (d.free n).Emptied :=
  h.modifySlot hn fun _ _ => .inr ⟨rfl, rfl⟩

/-- Live slots that are given up are emptied. -/
theorem Emptied.freed {ns : List NodeId} (h : d.Emptied) (hnd : ns.Nodup)
    (hlive : ∀ n ∈ ns, d.contains n = true) : (d.freed ns).Emptied := by
  induction ns generalizing d with
  | nil => exact h
  | cons n rest ih =>
    obtain ⟨hn, hnd⟩ := List.nodup_cons.mp hnd
    refine ih (h.free (hlive n List.mem_cons_self)) hnd fun m hm => ?_
    have hne : m ≠ n := fun heq => hn (heq ▸ hm)
    rw [contains_free, hlive m (List.mem_cons_of_mem _ hm)]
    simp [hne]

/-- A walk does not notice a freed slot that it does not visit. -/
theorem preorder_free {fuel : Nat} {ns : List NodeId} (h : n ∉ d.preorder fuel ns) :
    (d.free n).preorder fuel ns = d.preorder fuel ns := by
  induction fuel generalizing ns with
  | zero => rfl
  | succ fuel ih =>
    cases ns with
    | nil => rfl
    | cons m rest =>
      rw [preorder, List.mem_cons, not_or] at h
      have hm : SameAt d (d.free n) m := by rw [SameAt, slot?_free, if_neg (Ne.symm h.1)]
      rw [preorder, preorder, hm.children, ih h.2]

end Document

/-- The loop frees the nodes that a walk with as many steps visits. -/
theorem Edit.run_freeAll {fuel : Nat} {ns : List NodeId} (hnd : (d.preorder fuel ns).Nodup)
    (hlive : ∀ n ∈ d.preorder fuel ns, d.contains n = true) :
    (Edit.freeAll fuel ns).run d = .ok () (d.freed (d.preorder fuel ns)) := by
  induction fuel generalizing d ns with
  | zero => cases ns <;> rfl
  | succ fuel ih =>
    cases ns with
    | nil => rfl
    | cons n rest =>
      rw [Document.preorder] at hnd hlive
      obtain ⟨hn, hnd⟩ := List.nodup_cons.mp hnd
      have hcon := hlive n List.mem_cons_self
      obtain ⟨s, hs⟩ := Document.contains_iff.mp hcon
      have hch : s.children = d.children n := by simp [Document.children, hs]
      -- What comes after `n` is the same walk, since `n` is not visited again.
      have hsame := Document.preorder_free hn
      have hrest : (Edit.freeAll fuel (d.children n ++ rest)).run (d.free n) =
          .ok () ((d.free n).freed ((d.free n).preorder fuel (d.children n ++ rest))) := by
        refine ih (by rwa [hsame]) fun m hm => ?_
        rw [hsame] at hm
        have hne : m ≠ n := fun heq => hn (heq ▸ hm)
        rw [Document.contains_free, hlive m (List.mem_cons_of_mem _ hm)]
        simp [hne]
      rw [Edit.freeAll, Edit.run_bind_ok (Edit.run_slot hs),
        Edit.run_bind_ok (Edit.run_modifySlot hcon _), hch]
      rw [hsame] at hrest
      exact hrest

namespace Document

/-! ### The document without a subtree -/

/-- `n` taken out of its parent, if it has one. -/
def cutOff (d : Document) (n : NodeId) : Document :=
  match d.parent? n with
  | none => d
  | some p => d.unlink p n

/-- The document without `n` and all that is below it. -/
def without (d : Document) (n : NodeId) : Document := (d.cutOff n).freed (d.subtree n)

/-- A node without parent has nothing to be cut off from. -/
theorem cutOff_of_detached (h : d.parent? n = none) : d.cutOff n = d := by rw [cutOff, h]

/-- A node with a parent is unlinked from it. -/
theorem cutOff_of_parent (h : d.parent? n = some p) : d.cutOff n = d.unlink p n := by
  rw [cutOff, h]

/-- Cutting off a node leaves a well-formed document. -/
theorem WellFormed.cutOff (h : d.WellFormed) : (d.cutOff n).WellFormed := by
  cases hp : d.parent? n with
  | none => rwa [cutOff_of_detached hp]
  | some p =>
    rw [cutOff_of_parent hp]
    exact h.unlink hp

@[simp] theorem size_cutOff : (d.cutOff n).size = d.size := by
  cases hp : d.parent? n <;> simp [Document.cutOff, hp]

@[simp] theorem contains_cutOff : (d.cutOff n).contains m = d.contains m := by
  cases hp : d.parent? n <;> simp [Document.cutOff, hp]

@[simp] theorem kind?_cutOff : (d.cutOff n).kind? m = d.kind? m := by
  cases hp : d.parent? n <;> simp [Document.cutOff, hp]

/-- After the cut the node has no parent, and no other parent link has changed. -/
theorem parent?_cutOff : (d.cutOff n).parent? m = if m = n then none else d.parent? m := by
  cases hp : d.parent? n with
  | none =>
    rw [cutOff_of_detached hp]
    by_cases hm : m = n
    · rw [if_pos hm, hm, hp]
    · rw [if_neg hm]
  | some p => rw [cutOff_of_parent hp, parent?_unlink (contains_of_parent? hp)]

/-- After the cut the node is in no list, and no other child is missing. -/
theorem children_cutOff (h : d.WellFormed) :
    (d.cutOff n).children m = (d.children m).filter (· ≠ n) := by
  have hkeep : d.parent? n ≠ some m → (d.children m).filter (· ≠ n) = d.children m := by
    intro hp
    refine List.filter_eq_self.mpr fun x hx => ?_
    have : x ≠ n := fun heq => hp (heq ▸ h.parent_of_mem hx)
    simpa using this
  cases hp : d.parent? n with
  | none => rw [cutOff_of_detached hp, hkeep (by simp [hp])]
  | some p =>
    rw [cutOff_of_parent hp, children_unlink]
    by_cases hm : m = p
    · rw [if_pos hm, hm]
    · rw [if_neg hm, hkeep (by simpa [hp] using Ne.symm hm)]

/-- Only the node and its parent take part in a cut. -/
theorem sameAt_cutOff (hn : m ≠ n) (hp : d.parent? n ≠ some m) : SameAt d (d.cutOff n) m := by
  cases hpar : d.parent? n with
  | none => rw [cutOff_of_detached hpar]; rfl
  | some p =>
    have hmp : m ≠ p := fun heq => hp (heq ▸ hpar)
    rw [cutOff_of_parent hpar]
    exact sameAt_unlink hmp hn

/-- A cut does not change what is below the node. -/
theorem subtree_cutOff (h : d.WellFormed) (n : NodeId) :
    (d.cutOff n).subtree n = d.subtree n := by
  refine subtree_congr h h.cutOff fun m hm => ?_
  rw [children_cutOff h, List.filter_eq_self]
  intro x hx
  have hne : x ≠ n := by
    rintro rfl
    exact h.not_below_of_parent (h.parent_of_mem hx) hm
  simpa using hne

/-- The slots of the subtree are given up, and the others are those after the cut. -/
theorem slot?_without :
    (d.without n).slot? m = if m ∈ d.subtree n then none else (d.cutOff n).slot? m :=
  slot?_freed

@[simp] theorem size_without : (d.without n).size = d.size := by simp [without]

/-- Away from the subtree and from its parent nothing changes. -/
theorem sameAt_without (h : d.WellFormed) (hm : ¬ d.Below m n) (hp : d.parent? n ≠ some m) :
    SameAt d (d.without n) m := by
  have hne : m ≠ n := fun heq => hm (heq ▸ below_refl d m)
  rw [SameAt, slot?_without, if_neg (fun hmem => hm ((mem_subtree_iff h).mp hmem))]
  exact sameAt_cutOff hne hp

/-- Outside the subtree nothing but the cut shows. -/
theorem sameAt_cutOff_without (h : d.WellFormed) (hm : ¬ d.Below m n) :
    SameAt (d.cutOff n) (d.without n) m := by
  rw [SameAt, slot?_without, if_neg fun hmem => hm ((mem_subtree_iff h).mp hmem)]

/-- What is left are the live nodes that were not below the node. -/
theorem contains_without (h : d.WellFormed) :
    (d.without n).contains m = true ↔ d.contains m = true ∧ ¬ d.Below m n := by
  by_cases hm : d.Below m n
  · simp [contains, slot?_without, (mem_subtree_iff h).mpr hm, hm]
  · rw [(sameAt_cutOff_without h hm).contains, contains_cutOff]
    exact (and_iff_left hm).symm

/-- What was below the node is gone. -/
theorem not_contains_without (h : d.WellFormed) (hm : d.Below m n) :
    (d.without n).contains m = false := by
  rw [Bool.eq_false_iff]
  exact fun hc => ((contains_without h).mp hc).2 hm

/-- What is below the node in the old document is below it after the cut. -/
theorem below_cutOff_iff (h : d.WellFormed) : (d.cutOff n).Below m n ↔ d.Below m n := by
  rw [← mem_subtree_iff h.cutOff, subtree_cutOff h, mem_subtree_iff h]

/-- No parent link is new. -/
theorem parent?_of_without (h : d.WellFormed) (hp : (d.without n).parent? m = some p) :
    (d.cutOff n).parent? m = some p := by
  by_cases hm : d.Below m n
  · rw [parent?_eq_none_of_not_contains (not_contains_without h hm)] at hp
    cases hp
  · rwa [(sameAt_cutOff_without h hm).parent?] at hp

/-- A node that is left has its parent among those that are left, and is listed by it. -/
theorem mem_children_without_iff (h : d.WellFormed) :
    m ∈ (d.without n).children p ↔ (d.without n).IsParent m p := by
  have hc : (d.cutOff n).WellFormed := h.cutOff
  by_cases hp : d.Below p n
  · rw [children_eq_nil_of_not_contains (not_contains_without h hp)]
    refine iff_of_false List.not_mem_nil fun hpar => ?_
    -- A node in the list of a freed one would have been freed as well.
    have hm : d.Below m n := (below_cutOff_iff h).mp
      ((below_of_parent (parent?_of_without h hpar)).trans ((below_cutOff_iff h).mpr hp))
    rw [IsParent, parent?_eq_none_of_not_contains (not_contains_without h hm)] at hpar
    cases hpar
  · rw [(sameAt_cutOff_without h hp).children, hc.mem_children_iff, IsParent]
    refine ⟨fun hmp => ?_, parent?_of_without h⟩
    -- The parent of a freed node has been freed, unless it is the cut that left it without one.
    have hm : ¬ d.Below m n := by
      intro hm
      rcases ((below_cutOff_iff h).mpr hm).cases_parent with rfl | ⟨q, hq, hqn⟩
      · rw [parent?_cutOff, if_pos rfl] at hmp
        cases hmp
      · rw [hmp, Option.some.injEq] at hq
        exact hp ((below_cutOff_iff h).mp (hq ▸ hqn))
    rwa [IsParent, (sameAt_cutOff_without h hm).parent?]

/-- Freeing a whole subtree leaves no loose end. -/
theorem WellFormed.without (h : d.WellFormed) (hroot : n ≠ root) (hn : d.contains n = true) :
    (d.without n).WellFormed := by
  have hc : (d.cutOff n).WellFormed := h.cutOff
  have hout : ∀ {m}, ¬ d.Below m n → SameAt (d.cutOff n) (d.without n) m :=
    fun hm => sameAt_cutOff_without h hm
  have hgone : ∀ {m}, d.Below m n → (d.without n).children m = [] :=
    fun hm => children_eq_nil_of_not_contains (not_contains_without h hm)
  have hrootOut : ¬ d.Below root n := by
    intro hb
    rcases hb.cases_parent with heq | ⟨p, hp, -⟩
    · exact hroot heq.symm
    · exact h.ne_root_of_parent hp rfl
  exact {
    kind_root := by rw [(hout hrootOut).kind?, hc.kind_root]
    parent_root := by rw [(hout hrootOut).parent?, hc.parent_root]
    nodup_children m := by
      by_cases hm : d.Below m n
      · rw [hgone hm]
        exact List.nodup_nil
      · rw [(hout hm).children]
        exact hc.nodup_children m
    mem_children_iff m p := mem_children_without_iff h
    children_leaf m k hk hleaf := by
      by_cases hm : d.Below m n
      · exact hgone hm
      · rw [(hout hm).kind?] at hk
        rw [(hout hm).children]
        exact hc.children_leaf m k hk hleaf
    -- A cycle would have been there after the cut.
    acyclic m hm := hc.acyclic m (TransGen.mono (fun _ _ => parent?_of_without h) m m hm)
    discarded := by
      refine hc.emptied.freed (nodup_subtree h n) fun m hm => ?_
      rw [contains_cutOff]
      exact contains_of_mem_subtree h hn hm }

end Document

/-! ### The edit -/

namespace Edit

/-- A live node other than the root can always be cut off. -/
theorem run_detach (h : d.WellFormed) (hroot : n ≠ root) (hn : d.contains n = true) :
    (detach n).run d = .ok () (d.cutOff n) := by
  obtain ⟨s, hs⟩ := Document.contains_iff.mp hn
  have hpar : d.parent? n = s.parent? := by simp [Document.parent?, hs]
  rw [detach, if_neg hroot]
  dsimp only
  rw [run_bind_ok (run_slot hs)]
  cases hp : s.parent? with
  | none => rw [Document.cutOff_of_detached (hpar.trans hp)]; rfl
  | some p =>
    have hpn := hpar.trans hp
    rw [Document.cutOff_of_parent hpn]
    dsimp only
    rw [run_bind_ok (run_removeChild hpn (h.contains_parent hpn))]
    rfl

/-- Discarding takes the whole subtree away. -/
theorem run_discard (h : d.WellFormed) (hroot : n ≠ root) (hn : d.contains n = true) :
    (discard n).run d = .ok () (d.without n) := by
  have hc : (d.cutOff n).WellFormed := h.cutOff
  have hlive : (d.cutOff n).contains n = true := by rw [Document.contains_cutOff, hn]
  -- The loop has enough steps to come to the end of the subtree.
  have hwalk : (d.cutOff n).preorder (d.cutOff n).size [n] = d.subtree n := by
    rw [Document.preorder_eq_flatMap hc, List.flatMap_singleton, Document.subtree_cutOff h]
    rw [List.flatMap_singleton]
    exact Document.length_subtree_le hc hlive
  rw [discard, run_bind_ok (run_detach h hroot hn)]
  show (freeAll (d.cutOff n).size [n]).run (d.cutOff n) = _
  rw [run_freeAll, hwalk, Document.without]
  · rw [hwalk]
    exact Document.nodup_subtree h n
  · rw [hwalk, ← Document.subtree_cutOff h]
    exact fun _ => Document.contains_of_mem_subtree hc hlive

/-- A live node other than the root is discarded with its subtree; anything else is refused. -/
theorem discard_cases (h : d.WellFormed) (n : NodeId) :
    (n ≠ root ∧ d.contains n = true ∧ (discard n).run d = .ok () (d.without n)) ∨
    ∃ e, (discard n).run d = .error e d := by
  by_cases hroot : n = root
  · exact .inr ⟨.rootImmovable, run_bind_error (by simp [detach, hroot])⟩
  cases hn : d.contains n with
  | false =>
    refine .inr ⟨.missingNode n, run_bind_error ?_⟩
    simp [detach, hroot, run_slot_of_none (Document.not_contains_iff.mp hn)]
  | true => exact .inl ⟨hroot, rfl, run_discard h hroot hn⟩

/-- Discarding a node keeps the links in order. -/
theorem keeps_wellFormed_discard (n : NodeId) : Keeps Document.WellFormed (discard n) := by
  intro d h
  rcases discard_cases h n with ⟨hroot, hn, hrun⟩ | ⟨e, hrun⟩
  · rw [exec_of_ok hrun]
    exact h.without hroot hn
  · rwa [exec_of_error hrun]

end Edit

end AmpMarkup
