import AmpMarkup.Conversion.Recovery
import AmpMarkup.Proofs.Conversion.Later
import AmpMarkup.Proofs.Conversion.Wrapping
import AmpMarkup.Proofs.Document.Restore

namespace AmpMarkup

open Document (root PutBack LeftInPlace)

/-!
# Children put back after a failure

A node whose children have been taken out takes back those that are still free. What may have been
done to them in the meantime matters only in so far as none of them may have come to stand above the
node.

* `Document.Awaits d n nodes` — `n` can take `nodes` back.
* `Awaits.run`, `Awaits.runAll` — what is done to the children does not change that.
* `LeftInPlace.awaits` — a node that is where it was can take its children back.
* `Awaits.restored` — it gets those that are free.
* `reachable_children_restored` — from a document with a history to its children put back.
-/

variable {d d' d₁ : Document} {m n p c : NodeId} {nodes : List NodeId}

namespace Document

/-- `n` is live and has no children, and none of `nodes` is `n` or above it. -/
structure Awaits (d : Document) (n : NodeId) (nodes : List NodeId) : Prop where
  contains : d.contains n = true
  bare : d.children n = []
  not_below (c : NodeId) : c ∈ nodes → ¬ d.Below n c

/-- Discarding makes no new path. -/
theorem below_of_without (h : d.WellFormed) (hb : (d.without c).Below m n) : d.Below m n := by
  refine Relation.ReflTransGen.mono (fun a b hab => ?_) m n hb
  by_cases hac : d.Below a c
  · rw [IsParent, parent?_eq_none_of_not_contains (not_contains_without h hac)] at hab
    cases hab
  · rw [IsParent, (sameAt_cutOff_without h hac).parent?, parent?_cutOff] at hab
    by_cases ha : a = c
    · exact absurd (ha ▸ below_refl d a) hac
    · rwa [if_neg ha] at hab

/-- Taking all children out makes no new path. -/
theorem ChildrenDetached.below (h : ChildrenDetached d d' n) {x : NodeId}
    (hb : d'.Below m x) : d.Below m x := by
  refine Relation.ReflTransGen.mono (fun a b hab => ?_) m x hb
  by_cases ha : a = n
  · rwa [IsParent, ha, h.parent_top, ← ha] at hab
  -- What hung under `n` hangs nowhere now, and all else hangs where it did.
  by_cases hac : a ∈ d.children n
  · rw [IsParent, (h.loose a hac).detached] at hab
    cases hab
  · rwa [IsParent, (h.same a ha hac).parent?] at hab

/-- A node whose children have been taken out awaits them. -/
theorem ChildrenDetached.awaits (h : ChildrenDetached d d' n) (hwf : d.WellFormed)
    (hn : d.contains n = true) : d'.Awaits n (d.children n) := by
  obtain ⟨k, hk⟩ := exists_kind? hn
  refine ⟨contains_of_kind? ((h.kind n).trans hk), h.bare, fun c hc hb => ?_⟩
  exact hwf.not_below_of_parent (hwf.parent_of_mem hc) (h.below hb)

/-- A node that has been left in place without its children awaits them. -/
theorem LeftInPlace.awaits (h : LeftInPlace d d' n) (hwf : d.WellFormed) (hwf' : d'.WellFormed) :
    d'.Awaits n (d.children n) := by
  refine ⟨h.contains, h.bare, fun c hc hb => ?_⟩
  have hmem : c ∈ d.lineage n := h.lineage_eq ▸ (mem_lineage_iff hwf').mpr hb
  exact hwf.not_below_of_parent (hwf.parent_of_mem hc) ((mem_lineage_iff hwf).mp hmem)

namespace Awaits

/-! ### What is done in the meantime -/

/-- Taking a node out of its list does not stop the wait. -/
theorem unlink (h : d.Awaits n nodes) (hc : d.contains c = true) :
    (d.unlink p c).Awaits n nodes := by
  refine ⟨by rw [contains_unlink, h.contains], ?_, fun x hx hb => ?_⟩
  · rw [children_unlink]
    by_cases hp : n = p
    · rw [if_pos hp, ← hp, h.bare]
      rfl
    · rw [if_neg hp, h.bare]
  · exact h.not_below x hx (below_of_unlink hc hb)

/-- Putting one of the nodes elsewhere does not stop the wait. -/
theorem attach (h : d.Awaits n nodes) (hmem : c ∈ nodes) (hp : d.contains p = true) (hpn : p ≠ n)
    (hc : d.contains c = true) (hdet : d.parent? c = none) (g : List NodeId → List NodeId) :
    (d.attach p c g).Awaits n nodes := by
  refine ⟨by rw [contains_attach, h.contains], ?_, fun x hx hb => ?_⟩
  · rw [children_attach hp, if_neg (Ne.symm hpn), h.bare]
  · -- A path through the new link would start with one from `n` to `c`.
    rcases below_attach hc hdet hb with hb | ⟨hb, -⟩
    · exact h.not_below x hx hb
    · exact h.not_below c hmem hb

/-- Discarding one of the nodes does not stop the wait. -/
theorem without (h : d.Awaits n nodes) (hwf : d.WellFormed) (hmem : c ∈ nodes) :
    (d.without c).Awaits n nodes := by
  have hout := h.not_below c hmem
  -- A bare node is no parent, so its slot is not touched.
  have hp : d.parent? c ≠ some n := by
    intro hp
    have hchild := hwf.mem_children hp
    rw [h.bare] at hchild
    exact List.not_mem_nil hchild
  have hsame : SameAt d (d.without c) n := sameAt_without hwf hout hp
  refine ⟨hsame.contains.trans h.contains, hsame.children.trans h.bare, fun x hx hb => ?_⟩
  exact h.not_below x hx (below_of_without hwf hb)

/-- One action on the children leaves their former parent as it is, whether it succeeds or fails. -/
theorem run {a : Conversion.Action} (h : d.Awaits n nodes) (hwf : d.WellFormed)
    (ha : a.Disposes n nodes) : (a.run d).Awaits n nodes := by
  cases ha with
  | @discard c hmem =>
    show ((Edit.discard c).exec d).Awaits n nodes
    rcases Edit.discard_cases hwf c with ⟨-, -, hrun⟩ | ⟨e, hrun⟩
    · rw [Edit.exec_of_ok hrun]
      exact h.without hwf hmem
    · rwa [Edit.exec_of_error hrun]
  | @detach c hmem =>
    show ((Edit.detach c).exec d).Awaits n nodes
    rcases Edit.detach_cases d c with ⟨-, -, -, hrun⟩ | ⟨p, -, hp, -, hrun⟩ | ⟨e, hrun⟩
    · rwa [Edit.exec_of_ok hrun]
    · rw [Edit.exec_of_ok hrun]
      exact h.unlink (contains_of_parent? hp)
    · rwa [Edit.exec_of_error hrun]
  | @removeChild p c hmem =>
    show ((Edit.removeChild p c).exec d).Awaits n nodes
    rcases Edit.removeChild_cases d p c with ⟨hp, -, hrun⟩ | ⟨e, hrun⟩
    · rw [Edit.exec_of_ok hrun]
      exact h.unlink (contains_of_parent? hp)
    · rwa [Edit.exec_of_error hrun]
  | @appendChild p c hmem hpn =>
    show ((Edit.appendChild p c).exec d).Awaits n nodes
    rcases Edit.appendChild_cases d p c with ⟨ha, hrun⟩ | ⟨-, e, hrun⟩
    · rw [Edit.exec_of_ok hrun]
      exact h.attach hmem ha.contains_parent hpn ha.contains ha.detached _
    · rwa [Edit.exec_of_error hrun]
  | @insertBefore p c before hmem hpn =>
    show ((Edit.insertBefore p c before).exec d).Awaits n nodes
    rcases Edit.insertBefore_cases d p c before with ⟨i, ha, -, hrun⟩ | ⟨e, hrun⟩
    · rw [Edit.exec_of_ok hrun]
      exact h.attach hmem ha.contains_parent hpn ha.contains ha.detached _
    · rwa [Edit.exec_of_error hrun]
  | @replaceChild p c old hmem hpn hold =>
    show ((Edit.replaceChild p c old).exec d).Awaits n nodes
    rcases Edit.replaceChild_cases d p c old with ⟨i, hp, ha, hi, hrun⟩ | ⟨e, hrun⟩
    -- An exchange is a child taken out and another one put in its place.
    · rw [Edit.exec_of_ok hrun, ← Document.swap, swap_eq_attach_unlink hwf ha hp hi]
      have hcold : d.contains old = true := contains_of_parent? hp
      refine (h.unlink hcold).attach hmem ?_ hpn ?_ ?_ _
      · rw [contains_unlink, ha.contains_parent]
      · rw [contains_unlink, ha.contains]
      · rw [parent?_unlink hcold, if_neg (ne_of_parent? ha.detached hp), ha.detached]
    · rwa [Edit.exec_of_error hrun]

/-- Several actions on the children leave their former parent as it is. -/
theorem runAll {actions : List Conversion.Action} (h : d.Awaits n nodes) (hwf : d.WellFormed)
    (hactions : ∀ a ∈ actions, a.Disposes n nodes) :
    (Conversion.runAll d actions).Awaits n nodes := by
  induction actions generalizing d with
  | nil => exact h
  | cons a rest ih =>
    exact ih (h.run hwf (hactions a List.mem_cons_self)) (Conversion.wellFormed_run a hwf)
      fun b hb => hactions b (List.mem_cons_of_mem _ hb)

/-! ### What is put back -/

/-- What took children before takes them later. -/
theorem attachable (h : d'.Awaits n (d.children n)) (hwf : d.WellFormed) (hwf' : d'.WellFormed)
    (hlater : d.Later d') (hmem : c ∈ d.children n) (hfree : d'.isFree c = true) :
    Edit.Attachable d' n c := by
  -- `n` had a child, and what it is has not changed.
  have hp := hwf.parent_of_mem hmem
  obtain ⟨k, hk, hallows⟩ := hwf.allows_of_parent hp
  obtain ⟨k', hk'⟩ := exists_kind? h.contains
  have hallows' : k'.allowsChildren = true := by
    rw [← NodeKind.allowsChildren_mapAttributes (fun _ => .empty) k', ← NodeKind.bare,
      hlater.bare_eq hk hk', NodeKind.bare, NodeKind.allowsChildren_mapAttributes, hallows]
  obtain ⟨hc, hdet⟩ := isFree_iff.mp hfree
  exact Edit.attachable_of_not_below hwf' ⟨k', hk', hallows'⟩ (hwf.ne_root_of_parent hp) hc hdet
    (h.not_below c hmem)

/-- The children that are free are put back, in their order, and nothing else is changed. -/
theorem restored (h : d'.Awaits n (d.children n)) (hwf : d.WellFormed) (hwf' : d'.WellFormed)
    (hlater : d.Later d') :
    ∃ d'', (Edit.restoreChildren n (d.children n)).run d' = .ok () d'' ∧
      PutBack d' d'' n (d.children n) := by
  obtain ⟨d'', hrun, hwf'', hd''⟩ := Edit.run_restoreChildren hwf' h.contains
    (hwf.nodup_children n) fun c hc hfree => h.attachable hwf hwf' hlater hc hfree
  rw [h.bare, List.nil_append] at hd''
  refine ⟨d'', hrun, hwf'', ?_, fun m hm => ?_, hd''⟩
  · rw [hd''.children_eq h.contains, List.lookup_cons_self, Option.getD_some]
  · exact hd''.children_of_lookup (lookup_cons_of_ne hm _ _)

end Awaits

end Document

namespace Conversion

open Edit

/-- Several actions lead from a well-formed document to a well-formed one. -/
theorem wellFormed_runAll (h : d.WellFormed) (actions : List Action) :
    (runAll d actions).WellFormed := by
  induction actions generalizing d with
  | nil => exact h
  | cons a rest ih => exact ih (wellFormed_run a h)

/-- Discarding some nodes is running that many actions. -/
theorem runAll_discard {gone : List NodeId} (hrun : (gone.forM discard).run d = .ok () d') :
    runAll d (gone.map .discard) = d' := by
  induction gone generalizing d with
  | nil =>
    cases hrun
    rfl
  | cons c rest ih =>
    obtain ⟨_, d₁, hc, hrest⟩ := run_bind_eq_ok hrun
    show runAll ((discard c).exec d) (rest.map .discard) = d'
    rw [exec_of_ok hc]
    exact ih hrest

/-- When some of several loose nodes are discarded, the others are those that are free. -/
theorem isFree_runAll_discard {gone : List NodeId} (h : d.WellFormed)
    (hloose : ∀ c ∈ nodes, d.Loose c) (hnd : gone.Nodup) (hgone : gone ⊆ nodes) (hc : c ∈ nodes) :
    (runAll d (gone.map .discard)).isFree c = decide (c ∉ gone) := by
  obtain ⟨d', hrun, hd'⟩ := run_discardAll h (fun x hx => hloose x (hgone hx)) hnd
  rw [runAll_discard hrun]
  by_cases hmem : c ∈ gone
  · rw [Document.isFree, hd'.gone c hmem c (Document.below_refl d c)]
    simp [hmem]
  · have hleft := (hloose c hc).of_sameAt <| hd'.same c fun x hx =>
      (hloose c hc).not_below fun heq => hmem (heq ▸ hx)
    rw [Document.isFree_iff.mpr ⟨hleft.contains, hleft.detached⟩]
    simp [hmem]

/-- The children of a live node are taken out in order, each of them is free then, and putting them
    back at once gives exactly the document that there was. If in between any of them are discarded,
    detached or put under other nodes, or if other things are done that leave the node where it is
    and without children, then it gets back those of its children that are free, in their old
    order; no other list of children and no other link changes, and the links agree. If some are
    discarded and nothing else is done, these are all the others. Taking the children out is taking
    out the first child until there is none. -/
theorem reachable_children_restored (h : Reachable d) (hn : d.contains n = true) :
    ∃ d₁, (detachChildren n).run d = .ok (d.children n) d₁ ∧
      (∀ nodes d', Empties n d nodes d' ↔ nodes = d.children n ∧ d' = d₁) ∧
      d₁.children n = [] ∧ (∀ c ∈ d.children n, d₁.isFree c = true) ∧
      (restoreChildren n (d.children n)).run d₁ = .ok () d ∧
      (∀ actions, (∀ a ∈ actions, a.Disposes n (d.children n)) ∨
          LeftInPlace d (runAll d₁ actions) n →
        ∃ d', (restoreChildren n (d.children n)).run (runAll d₁ actions) = .ok () d' ∧
          PutBack (runAll d₁ actions) d' n (d.children n)) ∧
      ∀ gone : List NodeId, gone.Nodup → gone ⊆ d.children n →
        ∃ d', (restoreChildren n (d.children n)).run (runAll d₁ (gone.map .discard)) = .ok () d' ∧
          d'.children n = (d.children n).filter (· ∉ gone) := by
  have hwf := h.wellFormed
  obtain ⟨d₁, hrun, hd₁⟩ := run_detachChildren (n := n) hwf
  have hfree : ∀ c ∈ d.children n, d₁.isFree c = true := fun c hc =>
    Document.isFree_iff.mpr ⟨(hd₁.loose c hc).contains, (hd₁.loose c hc).detached⟩
  have hawaits := hd₁.awaits hwf hn
  have hlater : d.Later d₁ := by
    have hlater := later_run (.detachChildren n) d
    rwa [Action.run, exec_of_ok hrun] at hlater
  have hback : (restoreChildren n (d.children n)).run d₁ = .ok () d := by
    obtain ⟨d', hrun', hd'⟩ := hawaits.restored hwf hd₁.wellFormed hlater
    have hlinks := hd'.relinked
    rw [List.filter_eq_self.mpr hfree] at hlinks
    rw [hrun', hwf.restored_eq_self (((empties_iff hwf).mpr hrun).relinked hn) hlinks hn]
  have hlate : ∀ actions, (∀ a ∈ actions, a.Disposes n (d.children n)) ∨
      LeftInPlace d (runAll d₁ actions) n →
      ∃ d', (restoreChildren n (d.children n)).run (runAll d₁ actions) = .ok () d' ∧
        PutBack (runAll d₁ actions) d' n (d.children n) := by
    intro actions hactions
    have hwf₂ := wellFormed_runAll hd₁.wellFormed actions
    have hawaits₂ : (runAll d₁ actions).Awaits n (d.children n) := by
      rcases hactions with hactions | hplace
      · exact hawaits.runAll hd₁.wellFormed hactions
      · exact hplace.awaits hwf hwf₂
    exact hawaits₂.restored hwf hwf₂ (hlater.trans (later_runAll d₁ actions))
  refine ⟨d₁, hrun, fun nodes d' => ?_, hd₁.bare, hfree, hback, hlate, fun gone hnd hgone => ?_⟩
  · rw [empties_iff hwf, hrun, EStateM.Result.ok.injEq, eq_comm, @eq_comm _ d₁]
  · obtain ⟨d', hrun', hd'⟩ := hlate (gone.map .discard) <| .inl fun a ha => by
      obtain ⟨c, hc, rfl⟩ := List.mem_map.mp ha
      exact .discard (hgone hc)
    refine ⟨d', hrun', hd'.children_eq.trans (List.filter_congr fun c hc => ?_)⟩
    exact isFree_runAll_discard hd₁.wellFormed hd₁.loose hnd hgone hc

/-- Of the three children of an audio element one is discarded and one is put into a paragraph; the
    third is put back. -/
theorem reachable_children_restored_of_audio :
    let d := runAll .empty [.createElement "audio" .empty, .createElement "source" .empty,
      .createText "x", .createElement "source" .empty, .createElement "p" .empty,
      .appendChild root ⟨1⟩, .appendChild root ⟨5⟩, .appendChild ⟨1⟩ ⟨2⟩, .appendChild ⟨1⟩ ⟨3⟩,
      .appendChild ⟨1⟩ ⟨4⟩]
    let actions := [.discard ⟨2⟩, .appendChild ⟨5⟩ ⟨3⟩]
    Reachable d ∧ d.contains ⟨1⟩ = true ∧
    (∀ a ∈ actions, a.Disposes ⟨1⟩ [⟨2⟩, ⟨3⟩, ⟨4⟩]) ∧
    ∃ d₁ d', (detachChildren ⟨1⟩).run d = .ok [⟨2⟩, ⟨3⟩, ⟨4⟩] d₁ ∧
      (restoreChildren ⟨1⟩ [⟨2⟩, ⟨3⟩, ⟨4⟩]).run d₁ = .ok () d ∧
      (restoreChildren ⟨1⟩ [⟨2⟩, ⟨3⟩, ⟨4⟩]).run (runAll d₁ actions) = .ok () d' ∧
      PutBack (runAll d₁ actions) d' ⟨1⟩ [⟨2⟩, ⟨3⟩, ⟨4⟩] ∧ d'.children ⟨1⟩ = [⟨4⟩] := by
  intro d actions
  have h : Reachable d := Reachable.empty.runAll _
  have hfacts : d.contains ⟨1⟩ = true ∧ d.children ⟨1⟩ = [⟨2⟩, ⟨3⟩, ⟨4⟩] ∧
      [⟨2⟩, ⟨3⟩, ⟨4⟩].filter (runAll ((detachChildren ⟨1⟩).exec d) actions).isFree = [⟨4⟩] := by
    decide
  have hactions : ∀ a ∈ actions, a.Disposes ⟨1⟩ [⟨2⟩, ⟨3⟩, ⟨4⟩] := by
    intro a ha
    rcases List.mem_pair.mp ha with rfl | rfl
    · exact .discard (by simp)
    · exact .appendChild (by simp) (by decide)
  clear_value d
  obtain ⟨hn, hchildren, hleft⟩ := hfacts
  obtain ⟨d₁, hrun, -, -, -, hback, hlate, -⟩ := reachable_children_restored h hn
  rw [hchildren] at hrun hback hlate
  rw [exec_of_ok hrun] at hleft
  obtain ⟨d', hrun', hd'⟩ := hlate actions (.inl hactions)
  exact ⟨h, hn, hactions, d₁, d', hrun, hback, hrun', hd', hd'.children_eq.trans hleft⟩

end Conversion

end AmpMarkup
