import AmpMarkup.Document.Restore
import AmpMarkup.Proofs.Document.Detached
import AmpMarkup.Proofs.Document.Relink

namespace AmpMarkup

open Document (Relinked)

/-!
# What taking children out and putting them back come to

Both loops are followed link by link. Each comes to one list of children and to as many parents, so
that one after the other they come to nothing.

* `Relinked.children_eq`, `Relinked.eq_self` — what is read off links, and links that were there.
* `empties_iff` — taking out the first child until there is none; `Empties.relinked` — which links
  that changes.
* `run_restoreChildren` — which links change when nodes are put back.
* `restored_eq_self` — both together.
-/

variable {d d' d₁ : Document} {m n c : NodeId} {nodes : List NodeId}
  {lists lists' : List (NodeId × List NodeId)} {parents parents' : List (NodeId × Option NodeId)}

namespace Document

/-! ### Links read off and compared -/

/-- A node is free exactly if it is live and has no parent. -/
theorem isFree_iff : d.isFree c = true ↔ d.contains c = true ∧ d.parent? c = none := by
  rw [isFree, Bool.and_eq_true, Option.isNone_iff_eq_none]

/-- Only what is looked up counts. -/
theorem Relinked.congr (h : Relinked d d' lists parents)
    (hlists : ∀ m, lists.lookup m = lists'.lookup m)
    (hparents : ∀ m, parents.lookup m = parents'.lookup m) : Relinked d d' lists' parents' where
  size_eq := h.size_eq
  slot m s hs := by rw [← hlists, ← hparents, h.slot m s hs]

/-- The new links give every slot. -/
theorem Relinked.slot?_eq (h : Relinked d d' lists parents) (m : NodeId) :
    d'.slot? m = (d.slot? m).map fun s => { s with
      children := (lists.lookup m).getD s.children
      parent? := (parents.lookup m).getD s.parent? } := by
  cases hs : d.slots[m.index]? with
  | none =>
    -- There are no more slots in one document than in the other.
    have hs' : d'.slots[m.index]? = none := by
      rw [Array.getElem?_eq_none_iff] at hs ⊢
      exact Nat.le_trans (Nat.le_of_eq h.size_eq) hs
    rw [slot?, slot?, hs, hs']
    rfl
  | some s =>
    rw [slot?, slot?, h.slot m s hs, hs]
    cases hlive : s.live <;> simp [Option.filter, hlive]

/-- A live node has the new list of children if there is one. -/
theorem Relinked.children_eq (h : Relinked d d' lists parents) (hn : d.contains n = true) :
    d'.children n = (lists.lookup n).getD (d.children n) := by
  obtain ⟨s, hs⟩ := contains_iff.mp hn
  rw [children, children, h.slot?_eq, hs]
  rfl

/-- A node without a new list keeps its children. -/
theorem Relinked.children_of_lookup (h : Relinked d d' lists parents)
    (hm : lists.lookup m = none) : d'.children m = d.children m := by
  rw [children, children, h.slot?_eq, hm]
  cases d.slot? m <;> rfl

/-- Links that are set to what they are. -/
theorem Relinked.eq_self (h : Relinked d d' lists parents)
    (hlists : ∀ m l, lists.lookup m = some l → d.contains m = true ∧ l = d.children m)
    (hparents : ∀ m p?, parents.lookup m = some p? → d.contains m = true ∧ p? = d.parent? m) :
    d' = d := by
  refine ext_slots h.size_eq rfl fun m s hs => ?_
  have hlist : (lists.lookup m).getD s.children = s.children := by
    cases hl : lists.lookup m with
    | none => rfl
    | some l =>
      obtain ⟨hm, rfl⟩ := hlists m l hl
      exact (children_of_slots hm hs).symm
  have hparent : (parents.lookup m).getD s.parent? = s.parent? := by
    cases hl : parents.lookup m with
    | none => rfl
    | some p? =>
      obtain ⟨hm, rfl⟩ := hparents m p? hl
      rw [Option.getD_some, parent?, slot?_of_slots hm hs, Option.bind_some]
  rw [h.slot m s hs, hlist, hparent, hs]

/-- A list of children is a new one also when it is the old one. -/
theorem relinked_self (hn : d.contains n = true) : Relinked d d [(n, d.children n)] [] where
  size_eq := rfl
  slot m s hs := by
    by_cases hm : m = n
    · rw [hm, List.lookup_cons_self, ← children_of_slots hn (hm ▸ hs), ← hm, hs]
      rfl
    · rw [lookup_cons_of_ne hm, hs]
      rfl

/-- The same parent for several nodes. -/
theorem lookup_map_const (nodes : List NodeId) (p? : Option NodeId) (m : NodeId) :
    (nodes.map fun c => (c, p?)).lookup m = if m ∈ nodes then some p? else none := by
  induction nodes with
  | nil => rfl
  | cons c rest ih =>
    by_cases hm : m = c
    · rw [hm, List.map_cons, List.lookup_cons_self, if_pos List.mem_cons_self]
    · rw [List.map_cons, lookup_cons_of_ne hm, ih]
      simp [hm]

/-- It does not matter in which order the same parent is set. -/
theorem lookup_map_append (rest : List NodeId) (p? : Option NodeId) (m : NodeId) :
    ((rest.map fun x => (x, p?)) ++ [(c, p?)]).lookup m =
      ((c :: rest).map fun x => (x, p?)).lookup m := by
  have happend : (rest.map fun x => (x, p?)) ++ [(c, p?)] = (rest ++ [c]).map fun x => (x, p?) := by
    rw [List.map_append]
    rfl
  rw [happend, lookup_map_const, lookup_map_const]
  simp [or_comm]

/-- Of two lists for one node the later one counts. -/
theorem lookup_cons_cons (n : NodeId) (l l' : List NodeId) (m : NodeId) :
    ([(n, l)] ++ [(n, l')]).lookup m = [(n, l)].lookup m := by
  by_cases hm : m = n
  · rw [hm]
    exact List.lookup_cons_self.trans List.lookup_cons_self.symm
  · rw [List.singleton_append, lookup_cons_of_ne hm, lookup_cons_of_ne hm, lookup_cons_of_ne hm]

end Document

namespace Edit

open Document

/-! ### Taking children out -/

/-- Taking out the first child comes to taking out the head of the list. -/
theorem Empties.run_detachChildren (h : Empties n d nodes d') (hwf : d.WellFormed) :
    (detachChildren n).run d = .ok nodes d' := by
  induction h with
  | @done d hnone =>
    rw [firstChild?, List.head?_eq_none_iff] at hnone
    show ((d.children n).mapM (removeChild n)).run d = _
    rw [hnone]
    rfl
  | @step d d₁ d' first c removed hfirst hrun _ ih =>
    obtain ⟨rest, hl⟩ := List.head?_eq_some_iff.mp hfirst
    rcases removeChild_cases d n first with ⟨hp, hn, hok⟩ | ⟨e, herror⟩
    · obtain ⟨rfl, rfl⟩ := EStateM.Result.ok.inj (hok.symm.trans hrun)
      -- The rest of the list is the list of what is left.
      have htail : (rest.mapM (removeChild n)).run (d.unlink n first) = .ok removed d' := by
        rw [← hwf.children_unlink_head hl]
        exact ih (hwf.unlink hp)
      show ((d.children n).mapM (removeChild n)).run d = _
      rw [hl, List.mapM_cons, run_bind_ok hok, run_bind_ok htail]
      rfl
    · exact absurd hrun (run_ne_ok herror)

/-- Every node can be emptied. -/
theorem exists_empties (hwf : d.WellFormed) (n : NodeId) : ∃ nodes d', Empties n d nodes d' := by
  -- With every step the list of children gets shorter.
  induction hlen : (d.children n).length generalizing d with
  | zero =>
    refine ⟨[], d, .done ?_⟩
    rw [firstChild?, List.length_eq_zero_iff.mp hlen]
    rfl
  | succ k ih =>
    obtain ⟨c, rest, hl⟩ := List.exists_cons_of_length_eq_add_one hlen
    have hp : d.parent? c = some n := hwf.parent_of_mem (hl ▸ List.mem_cons_self)
    have hrest : ((d.unlink n c).children n).length = k := by
      rw [hl, List.length_cons, Nat.succ_inj] at hlen
      rw [hwf.children_unlink_head hl, hlen]
    obtain ⟨removed, d', hremoved⟩ := ih (hwf.unlink hp) hrest
    refine ⟨c :: removed, d', .step ?_ (run_removeChild hp (hwf.contains_parent hp)) hremoved⟩
    rw [firstChild?, hl]
    rfl

/-- Taking out the first child until there is none is what taking out all children comes to. -/
theorem empties_iff (hwf : d.WellFormed) :
    Empties n d nodes d' ↔ (detachChildren n).run d = .ok nodes d' := by
  refine ⟨fun h => h.run_detachChildren hwf, fun hrun => ?_⟩
  -- The removals come to an end, and they give what this run gives.
  obtain ⟨nodes', d'', h⟩ := exists_empties hwf n
  obtain ⟨rfl, rfl⟩ := EStateM.Result.ok.inj ((h.run_detachChildren hwf).symm.trans hrun)
  exact h

/-- The list of `n` is empty in the end, and those that stood in it have no parent. -/
theorem Empties.relinked (h : Empties n d nodes d') (hn : d.contains n = true) :
    Relinked d d' [(n, [])] (nodes.map fun c => (c, none)) := by
  induction h with
  | @done d hnone =>
    rw [firstChild?, List.head?_eq_none_iff] at hnone
    have hself := relinked_self hn
    rwa [hnone] at hself
  | @step d d₁ d' first c removed hfirst hrun _ ih =>
    rcases removeChild_cases d n first with ⟨hp, -, hok⟩ | ⟨e, herror⟩
    · obtain ⟨rfl, rfl⟩ := EStateM.Result.ok.inj (hok.symm.trans hrun)
      have hrest := ih (by rw [contains_unlink, hn])
      exact ((relinked_unlink hn first).trans hrest).congr (lookup_cons_cons n _ _)
        (lookup_map_append removed none)
    · exact absurd hrun (run_ne_ok herror)

/-! ### Putting nodes back -/

/-- A node at the end of the list does not keep others from following it. -/
theorem Attachable.after {x : NodeId} (hx : Attachable d n x) (h : d.WellFormed)
    (ha : Attachable d n c) (hne : x ≠ c) : Attachable (d.attach n c (· ++ [c])) n x := by
  have hwf := h.attach ha (g := (· ++ [c])) List.perm_append_comm
  refine attachable_of_not_below hwf ?_ hx.ne_root ?_ ?_ fun hb => ?_
  · rw [kind?_attach]
    exact hx.allows
  · rw [contains_attach, hx.contains]
  · rw [parent?_attach ha.contains, if_neg hne, hx.detached]
  -- The new link leads up to `n`, so a path from `n` does not need it.
  · rcases below_attach ha.contains ha.detached hb with hb | ⟨-, hb⟩
    · exact hx.not_below h hb
    · exact hx.not_below h hb

/-- Putting back nothing changes nothing. -/
theorem run_restoreChildren_nil (n : NodeId) (d : Document) :
    (restoreChildren n []).run d = .ok () d := by
  show ((if d.contains n then pure () else pure () : Edit Unit)).run d = _
  rw [ite_self]
  rfl

/-- A free node is put at the end of the list. -/
theorem run_restoreChildren_cons (hn : d.contains n = true) (hfree : d.isFree c = true)
    (ha : Attachable d n c) (rest : List NodeId) :
    (restoreChildren n (c :: rest)).run d =
      (restoreChildren n rest).run (d.attach n c (· ++ [c])) := by
  have hn' : (d.attach n c (· ++ [c])).contains n = true := by rw [contains_attach, hn]
  have hattempt : (attempt (appendChild n c)).run d = .ok () (d.attach n c (· ++ [c])) :=
    run_tryCatch_ok (run_appendChild ha)
  obtain ⟨hc, hp⟩ := isFree_iff.mp hfree
  simp [restoreChildren, hn, hn', hc, hp, hattempt]

/-- A node that is not free is passed over. -/
theorem run_restoreChildren_cons_of_not_free (hn : d.contains n = true)
    (hfree : d.isFree c = false) (rest : List NodeId) :
    (restoreChildren n (c :: rest)).run d = (restoreChildren n rest).run d := by
  have hfree' : ¬ (d.contains c = true ∧ d.parent? c = none) := by
    rw [← isFree_iff, hfree]
    exact Bool.false_ne_true
  simp [restoreChildren, hn, hfree']

/-- The nodes that are free are put behind the children that `n` has, if each of them can be put
    there. -/
theorem run_restoreChildren (h : d.WellFormed) (hn : d.contains n = true) (hnd : nodes.Nodup)
    (hnodes : ∀ c ∈ nodes, d.isFree c = true → Attachable d n c) :
    ∃ d', (restoreChildren n nodes).run d = .ok () d' ∧ d'.WellFormed ∧
      Relinked d d' [(n, d.children n ++ nodes.filter d.isFree)]
        ((nodes.filter d.isFree).map fun c => (c, some n)) := by
  induction nodes generalizing d with
  | nil =>
    refine ⟨d, run_restoreChildren_nil n d, h, ?_⟩
    rw [List.filter_nil, List.append_nil]
    exact relinked_self hn
  | cons c rest ih =>
    obtain ⟨hc, hnd⟩ := List.nodup_cons.mp hnd
    have hrest : ∀ x ∈ rest, d.isFree x = true → Attachable d n x :=
      fun x hx => hnodes x (List.mem_cons_of_mem _ hx)
    cases hfree : d.isFree c with
    | false =>
      obtain ⟨d', hrun, hd'⟩ := ih h hn hnd hrest
      rw [List.filter_cons_of_neg (by simp [hfree])]
      exact ⟨d', (run_restoreChildren_cons_of_not_free hn hfree rest).trans hrun, hd'⟩
    | true =>
      have ha : Attachable d n c := hnodes c List.mem_cons_self hfree
      have hwf := h.attach ha (g := (· ++ [c])) List.perm_append_comm
      have hne : ∀ x ∈ rest, x ≠ c := fun x hx heq => hc (heq ▸ hx)
      -- The link concerns none of the nodes still to come.
      have hsame : ∀ x ∈ rest, (d.attach n c (· ++ [c])).isFree x = d.isFree x := by
        intro x hx
        rw [isFree, isFree, contains_attach, parent?_attach ha.contains, if_neg (hne x hx)]
      have hrest' : ∀ x ∈ rest, (d.attach n c (· ++ [c])).isFree x = true →
          Attachable (d.attach n c (· ++ [c])) n x := by
        intro x hx hfreex
        exact (hrest x hx ((hsame x hx).symm.trans hfreex)).after h ha (hne x hx)
      obtain ⟨d', hrun, hwf', hd'⟩ := ih hwf (by rw [contains_attach, hn]) hnd hrest'
      rw [List.filter_congr hsame] at hd'
      refine ⟨d', (run_restoreChildren_cons hn hfree ha rest).trans hrun, hwf', ?_⟩
      rw [children_attach hn, if_pos rfl, List.append_assoc, List.singleton_append] at hd'
      rw [List.filter_cons_of_pos hfree]
      exact ((relinked_attach hn c (· ++ [c])).trans hd').congr (lookup_cons_cons n _ _)
        (lookup_map_append _ (some n))

end Edit

/-! ### Both together -/

/-- What has been taken out of `n` and put back under `n` is where it was. -/
theorem Document.WellFormed.restored_eq_self (h : d.WellFormed)
    (hout : Relinked d d₁ [(n, [])] ((d.children n).map fun c => (c, none)))
    (hback : Relinked d₁ d' [(n, d.children n)] ((d.children n).map fun c => (c, some n)))
    (hn : d.contains n = true) : d' = d := by
  -- Of what is written twice the second counts, and that is what was there.
  refine (hout.trans hback).eq_self (fun m l hl => ?_) fun m p? hp => ?_
  · rw [Document.lookup_cons_cons] at hl
    by_cases hm : m = n
    · rw [hm, List.lookup_cons_self, Option.some.injEq] at hl
      exact ⟨hm ▸ hn, hl.symm.trans (hm ▸ rfl)⟩
    · rw [Document.lookup_cons_of_ne hm] at hl
      cases hl
  · rw [List.lookup_append, Document.lookup_map_const, Document.lookup_map_const] at hp
    by_cases hm : m ∈ d.children n
    · rw [if_pos hm, if_pos hm, Option.some_or, Option.some.injEq] at hp
      exact ⟨h.contains_child hm, hp.symm.trans (h.parent_of_mem hm).symm⟩
    · rw [if_neg hm, if_neg hm] at hp
      cases hp

end AmpMarkup
