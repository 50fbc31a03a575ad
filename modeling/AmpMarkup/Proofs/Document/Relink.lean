import AmpMarkup.Document.Relink
import AmpMarkup.Proofs.Document.Refusals

namespace AmpMarkup

open Document (root Relinked Spliced Pruned)

/-!
# Edits change what they are about and nothing else

Every edit of links ends on a document that is written down slot by slot, and there is only one such
document. So an edit succeeds with a document exactly if none of its conditions holds and the
document is that one.

* `Relinked.trans`, `relinked_mapChildren`, `relinked_setParent` — single changes, put together to
  `relinked_attach` and its like.
* `Relinked.unique`, `Pruned.unique` — there is only one such document.
* `Answers.run_eq_ok_iff` — from an effect that is unique to the edit.
* `run_appendChild_iff` and its like — the single edits; `run_removeChild_of_appendChild` — putting
  a node at the end and taking it out again.
* `reachable_edits_exact` — all of them, for every document with a history.
-/

variable {α : Type} {d d' d₁ d₂ : Document} {m n p c : NodeId}
  {lists lists' : List (NodeId × List NodeId)} {parents parents' : List (NodeId × Option NodeId)}

namespace Document

/-! ### Slots of the arena -/

/-- Two documents with the slots of a third, changed in the same way, are the same. -/
theorem ext_slots (hsize : d₁.size = d.size) (hsize' : d₂.size = d.size)
    (hslot : ∀ (m : NodeId) (s : Slot), d.slots[m.index]? = some s →
      d₁.slots[m.index]? = d₂.slots[m.index]?) : d₁ = d₂ := by
  have hslots : d₁.slots = d₂.slots := by
    refine Array.ext_getElem? fun i => ?_
    by_cases hi : i < d.size
    · exact hslot ⟨i⟩ _ (Array.getElem?_eq_getElem hi)
    · have hle : d₁.slots.size ≤ i := Nat.le_of_not_lt fun hlt => hi (hsize ▸ hlt)
      have hle' : d₂.slots.size ≤ i := Nat.le_of_not_lt fun hlt => hi (hsize' ▸ hlt)
      rw [Array.getElem?_eq_none hle, Array.getElem?_eq_none hle']
  cases d₁
  cases d₂
  exact congrArg Document.mk hslots

/-- Looking for another key skips the first entry. -/
theorem lookup_cons_of_ne {β : Type} (h : m ≠ n) (b : β) (rest : List (NodeId × β)) :
    ((n, b) :: rest).lookup m = rest.lookup m := by
  rw [List.lookup_cons, beq_false_of_ne h]

/-- The slot of a live node holds its children. -/
theorem children_of_slots (h : d.contains n = true) {s : Slot} (hs : d.slots[n.index]? = some s) :
    s.children = d.children n := by
  simp [children, slot?_of_slots h hs]

/-! ### Links changed one after the other -/

/-- A document that is left alone has no new links. -/
theorem relinked_refl (d : Document) : Relinked d d [] [] := ⟨rfl, fun _ _ hs => hs⟩

/-- What is changed later counts. -/
theorem Relinked.trans (h : Relinked d d₁ lists parents) (h' : Relinked d₁ d' lists' parents') :
    Relinked d d' (lists' ++ lists) (parents' ++ parents) where
  size_eq := h'.size_eq.trans h.size_eq
  slot m s hs := by
    rw [h'.slot m _ (h.slot m s hs), List.lookup_append, List.lookup_append]
    cases lists'.lookup m <;> cases parents'.lookup m <;> rfl

/-- A changed list of children is the only new link. -/
theorem relinked_mapChildren (hp : d.contains p = true) (g : List NodeId → List NodeId) :
    Relinked d (d.mapChildren p g) [(p, g (d.children p))] [] where
  size_eq := size_mapChildren g
  slot m s hs := by
    rw [mapChildren, slots_modifySlot, hs]
    by_cases hm : m = p
    · subst hm
      simp [children_of_slots hp hs]
    · simp [hm, lookup_cons_of_ne]

/-- A changed parent link is the only new link. -/
theorem relinked_setParent (d : Document) (c : NodeId) (p? : Option NodeId) :
    Relinked d (d.setParent c p?) [] [(c, p?)] where
  size_eq := size_setParent p?
  slot m s hs := by
    rw [setParent, slots_modifySlot, hs]
    by_cases hm : m = c <;> simp [hm, lookup_cons_of_ne]

/-- Attaching changes one list and one parent link. -/
theorem relinked_attach (hp : d.contains p = true) (c : NodeId) (g : List NodeId → List NodeId) :
    Relinked d (d.attach p c g) [(p, g (d.children p))] [(c, some p)] :=
  (relinked_mapChildren hp g).trans (relinked_setParent _ c (some p))

/-- Unlinking changes one list and one parent link. -/
theorem relinked_unlink (hp : d.contains p = true) (c : NodeId) :
    Relinked d (d.unlink p c) [(p, (d.children p).filter (· ≠ c))] [(c, none)] :=
  (relinked_mapChildren hp (·.filter (· ≠ c))).trans (relinked_setParent _ c none)

/-- Exchanging two children changes one list and two parent links. -/
theorem relinked_swap (hp : d.contains p = true) (n c : NodeId) (i : Nat) :
    Relinked d (d.swap p n c i) [(p, (d.children p).set i n)] [(c, none), (n, some p)] :=
  (relinked_attach hp n (·.set i n)).trans (relinked_setParent _ c none)

/-- The new links determine the document. -/
theorem Relinked.unique (h : Relinked d d₁ lists parents) (h' : Relinked d d₂ lists parents) :
    d₁ = d₂ :=
  ext_slots h.size_eq h'.size_eq fun m s hs => (h.slot m s hs).trans (h'.slot m s hs).symm

/-! ### A child that gives way to others -/

/-- A list without repetitions is split at a member in one way only. -/
theorem split_unique {pre post pre' post' : List NodeId} (hnd : (pre ++ c :: post).Nodup)
    (heq : pre ++ c :: post = pre' ++ c :: post') : pre = pre' ∧ post = post' := by
  obtain ⟨hpre, hpost⟩ := not_mem_of_split hnd
  obtain ⟨h₁, -, h₂⟩ := (List.append_cons_inj_of_notMem hpre hpost).mp heq
  exact ⟨h₁, h₂⟩

/-- What stands in the place of `c`, and the new parent links, determine the document. -/
theorem Spliced.unique (hwf : d.WellFormed) {xs : List NodeId}
    (h : Spliced d d₁ p c xs parents) (h' : Spliced d d₂ p c xs parents) : d₁ = d₂ := by
  obtain ⟨pre, post, hl, h⟩ := h
  obtain ⟨pre', post', hl', h'⟩ := h'
  obtain ⟨rfl, rfl⟩ := split_unique (hl ▸ hwf.nodup_children p) (hl.symm.trans hl')
  exact h.unique h'

/-- Inserting `n` before `c` puts both in the place of `c`. -/
theorem spliced_insertIdx (h : d.WellFormed) (hp : d.contains p = true) {i : Nat}
    (hi : (d.children p).idxOf? c = some i) (n : NodeId) :
    Spliced d (d.attach p n (·.insertIdx i n)) p c [n, c] [(n, some p)] := by
  have hmem : c ∈ d.children p := by
    by_contra hmem
    rw [List.idxOf?_eq_none_iff.mpr hmem] at hi
    cases hi
  obtain ⟨pre, post, hl, hidx, -, -⟩ := exists_split_of_mem (h.nodup_children p) hmem
  obtain rfl := Option.some.inj (hidx.symm.trans hi)
  have hlist : (d.children p).insertIdx pre.length n = pre ++ [n, c] ++ post := by
    rw [hl, insertIdx_length_append, List.append_assoc]
    rfl
  refine ⟨pre, post, hl, ?_⟩
  rw [← hlist]
  exact relinked_attach hp n (·.insertIdx pre.length n)

/-- Exchanging puts `n` in the place of `c`. -/
theorem spliced_swap (h : d.WellFormed) (hp : d.parent? c = some p) {i : Nat}
    (hi : (d.children p).idxOf? c = some i) (n : NodeId) :
    Spliced d (d.swap p n c i) p c [n] [(c, none), (n, some p)] := by
  obtain ⟨pre, post, hl, hidx, -, hset⟩ :=
    exists_split_of_mem (h.nodup_children p) (h.mem_children hp)
  obtain rfl := Option.some.inj (hidx.symm.trans hi)
  refine ⟨pre, post, hl, ?_⟩
  rw [List.append_assoc, List.singleton_append, ← hset]
  exact relinked_swap (h.contains_parent hp) n c pre.length

/-- Unlinking puts nothing in the place of `c`. -/
theorem spliced_unlink (h : d.WellFormed) (hp : d.parent? c = some p) :
    Spliced d (d.unlink p c) p c [] [(c, none)] := by
  obtain ⟨pre, post, hl, -, hfilter, -⟩ :=
    exists_split_of_mem (h.nodup_children p) (h.mem_children hp)
  refine ⟨pre, post, hl, ?_⟩
  rw [List.append_nil, ← hfilter]
  exact relinked_unlink (h.contains_parent hp) c

/-- A link that is made at the end of a list and undone again. -/
theorem unlink_attach (h : d.WellFormed) (ha : Edit.Attachable d p c) :
    (d.attach p c (· ++ [c])).unlink p c = d := by
  have hattach := relinked_attach ha.contains_parent c (· ++ [c])
  have hunlink := relinked_unlink (d := d.attach p c (· ++ [c])) (p := p)
    (by rw [contains_attach, ha.contains_parent]) c
  -- The child did not stand in the list before, so nothing else is taken out.
  have hfresh : c ∉ d.children p := by
    intro hmem
    exact Option.some_ne_none p ((h.parent_of_mem hmem).symm.trans ha.detached)
  rw [children_attach ha.contains_parent, if_pos rfl, filter_ne_append_cons hfresh
    List.not_mem_nil, List.append_nil] at hunlink
  have hboth := hattach.trans hunlink
  refine ext_slots hboth.size_eq rfl fun m s hs => ?_
  have hlist : (List.lookup m [(p, d.children p), (p, d.children p ++ [c])]).getD s.children =
      s.children := by
    by_cases hm : m = p
    · subst hm
      rw [List.lookup_cons_self, children_of_slots ha.contains_parent hs, Option.getD_some]
    · rw [lookup_cons_of_ne hm, lookup_cons_of_ne hm]
      rfl
  have hparent : (List.lookup m [(c, none), (c, some p)]).getD s.parent? = s.parent? := by
    by_cases hm : m = c
    · subst hm
      have hdet := ha.detached
      rw [parent?, slot?_of_slots ha.contains hs, Option.bind_some] at hdet
      rw [List.lookup_cons_self, hdet, Option.getD_some]
    · rw [lookup_cons_of_ne hm, lookup_cons_of_ne hm]
      rfl
  rw [hboth.slot m s hs, List.singleton_append, List.singleton_append, hlist, hparent, hs]

/-! ### A subtree given up -/

/-- The slots that have been given up are emptied, and all others stay in the array as they are. -/
theorem slots_freed (d : Document) (ns : List NodeId) (m : NodeId) :
    (d.freed ns).slots[m.index]? =
      if m ∈ ns then
        d.slots[m.index]?.map fun s => { s with live := false, parent? := none, children := [] }
      else d.slots[m.index]? := by
  induction ns generalizing d with
  | nil => simp [freed]
  | cons n rest ih =>
    have hstep : d.freed (n :: rest) = (d.free n).freed rest := rfl
    rw [hstep, ih, free, slots_modifySlot]
    by_cases hm : m ∈ rest
    · rw [if_pos hm, if_pos (List.mem_cons_of_mem _ hm)]
      -- A slot that is given up twice is given up.
      by_cases hn : m = n
      · rw [if_pos hn, Option.map_map]
        rfl
      · rw [if_neg hn]
    · rw [if_neg hm]
      by_cases hn : m = n
      · rw [if_pos hn, if_pos (hn ▸ List.mem_cons_self)]
      · rw [if_neg hn, if_neg fun hmem => (List.mem_cons.mp hmem).elim hn hm]

/-- A cut concerns the parent link of the node, and the list in which it stands if there is one. -/
theorem relinked_cutOff (h : d.WellFormed) (n : NodeId) :
    ∃ lists parents, Relinked d (d.cutOff n) lists parents ∧
      (∀ m, m ≠ n → parents.lookup m = none) ∧
      (∀ m, d.parent? n ≠ some m → lists.lookup m = none) ∧
      ∀ p, d.parent? n = some p → ∃ pre post, d.children p = pre ++ n :: post ∧
        lists.lookup p = some (pre ++ post) := by
  cases hp : d.parent? n with
  | none =>
    rw [cutOff_of_detached hp]
    exact ⟨[], [], relinked_refl d, fun _ _ => rfl, fun _ _ => rfl, fun p hp => nomatch hp⟩
  | some p =>
    rw [cutOff_of_parent hp]
    obtain ⟨pre, post, hl, hrelinked⟩ := spliced_unlink h hp
    rw [List.append_nil] at hrelinked
    refine ⟨_, _, hrelinked, fun m hm => lookup_cons_of_ne hm _ _, fun m hm => ?_, fun q hq => ?_⟩
    · exact lookup_cons_of_ne (fun heq => hm (congrArg some heq.symm)) _ _
    · obtain rfl := Option.some.inj hq
      exact ⟨pre, post, hl, List.lookup_cons_self⟩

/-- Discarding a node prunes its subtree. -/
theorem pruned_without (h : d.WellFormed) (n : NodeId) : Pruned d (d.without n) n := by
  obtain ⟨lists, parents, hcut, hparents, hlists, hlist⟩ := relinked_cutOff h n
  have hmem : ∀ m, m ∈ d.subtree n ↔ m = n ∨ m ∈ d.descendants n := fun m => by
    rw [subtree_eq_cons_descendants h, List.mem_cons]
  refine ⟨size_without, fun m s hm hs => ?_, fun p s hp hs => ?_, fun m s hn hm hp hs => ?_⟩
  · rw [without, slots_freed, if_pos ((hmem m).mpr hm), hcut.slot m s hs]
    rfl
  · -- The parent is not below its child.
    have hout : p ∉ d.subtree n := fun hpn =>
      h.not_below_of_parent hp ((mem_subtree_iff h).mp hpn)
    have hpn : p ≠ n := fun heq => hout (heq ▸ (mem_subtree_iff h).mpr (below_refl d p))
    obtain ⟨pre, post, hl, hlookup⟩ := hlist p hp
    refine ⟨pre, post, (children_of_slots (h.contains_parent hp) hs).trans hl, ?_⟩
    rw [without, slots_freed, if_neg hout, hcut.slot p s hs, hlookup, hparents p hpn]
    rfl
  · have hout : m ∉ d.subtree n := fun hmn => ((hmem m).mp hmn).elim hn hm
    rw [without, slots_freed, if_neg hout, hcut.slot m s hs, hlists m hp, hparents m hn]
    rfl

/-- What has been pruned determines the document. -/
theorem Pruned.unique (hwf : d.WellFormed) (h : Pruned d d₁ n) (h' : Pruned d d₂ n) :
    d₁ = d₂ := by
  refine ext_slots h.size_eq h'.size_eq fun m s hs => ?_
  by_cases hm : m = n ∨ m ∈ d.descendants n
  · exact (h.gone m s hm hs).trans (h'.gone m s hm hs).symm
  by_cases hp : d.parent? n = some m
  · obtain ⟨pre, post, hl, hslot⟩ := h.parent m s hp hs
    obtain ⟨pre', post', hl', hslot'⟩ := h'.parent m s hp hs
    have hnd : s.children.Nodup :=
      children_of_slots (hwf.contains_parent hp) hs ▸ hwf.nodup_children m
    obtain ⟨rfl, rfl⟩ := split_unique (hl ▸ hnd) (hl.symm.trans hl')
    exact hslot.trans hslot'.symm
  · obtain ⟨hn, hmem⟩ := not_or.mp hm
    exact (h.elsewhere m s hn hmem hp hs).trans (h'.elsewhere m s hn hmem hp hs).symm

end Document

namespace Edit

/-! ### Edits -/

/-- An edit that no cause forbids ends well. -/
theorem Answers.exists_run {e : Edit α} {causes : List (Bool × EditError)} (h : Answers e d causes)
    (hnone : firstCause? causes = none) : ∃ a d', e.run d = .ok a d' := by
  rw [Answers, hnone] at h
  obtain ⟨a, d', hrun, -⟩ := h
  exact ⟨a, d', hrun⟩

/-- An edit whose effect leaves no choice succeeds with a result exactly if none of its conditions
    holds and the result is the one that the effect describes. -/
theorem Answers.run_eq_ok_iff {e : Edit α} {causes : List (Bool × EditError)} {a : α}
    {P : α → Document → Prop} (h : Answers e d causes)
    (heffect : ∀ a d', e.run d = .ok a d' → P a d')
    (hunique : ∀ a d₁ a' d₂, P a d₁ → P a' d₂ → a = a' ∧ d₁ = d₂) :
    e.run d = .ok a d' ↔ firstCause? causes = none ∧ P a d' := by
  constructor
  · intro hrun
    refine ⟨?_, heffect a d' hrun⟩
    by_contra hcause
    obtain ⟨cause, hcause⟩ := Option.ne_none_iff_exists'.mp hcause
    rw [Answers, hcause, hrun] at h
    cases h
  · rintro ⟨hnone, hP⟩
    obtain ⟨a', d'', hrun⟩ := h.exists_run hnone
    obtain ⟨rfl, rfl⟩ := hunique _ _ _ _ hP (heffect a' d'' hrun)
    exact hrun

/-- Appending a child ends well exactly if no cause forbids it, and then the child is the last one
    of its new parent. -/
theorem run_appendChild_iff (h : d.WellFormed) :
    (appendChild p c).run d = .ok () d' ↔ firstCause? (d.attachCauses p c) = none ∧
      Relinked d d' [(p, d.children p ++ [c])] [(c, some p)] := by
  refine (answers_appendChild h p c).run_eq_ok_iff (P := fun _ d' => Relinked d d' _ _)
    (fun _ d' hrun => ?_) fun _ _ _ _ h₁ h₂ => ⟨rfl, h₁.unique h₂⟩
  rcases appendChild_cases d p c with ⟨ha, hok⟩ | ⟨-, e, herror⟩
  · rw [hok] at hrun
    cases hrun
    exact Document.relinked_attach ha.contains_parent c _
  · exact absurd hrun (run_ne_ok herror)

/-- Inserting a child ends well exactly if no cause forbids it, and then the child stands directly
    before the one that was named. -/
theorem run_insertBefore_iff {before : NodeId} (h : d.WellFormed) :
    (insertBefore p c before).run d = .ok () d' ↔
      firstCause? (d.insertCauses p c before) = none ∧
      Spliced d d' p before [c, before] [(c, some p)] := by
  refine (answers_insertBefore h p c before).run_eq_ok_iff (P := fun _ d' => Spliced d d' _ _ _ _)
    (fun _ d' hrun => ?_) fun _ _ _ _ h₁ h₂ => ⟨rfl, h₁.unique h h₂⟩
  rcases insertBefore_cases d p c before with ⟨i, ha, hi, hok⟩ | ⟨e, herror⟩
  · rw [hok] at hrun
    cases hrun
    exact Document.spliced_insertIdx h ha.contains_parent hi c
  · exact absurd hrun (run_ne_ok herror)

/-- Replacing a child ends well exactly if no cause forbids it, and then the new child stands in the
    place of the old one. -/
theorem run_replaceChild_iff {new old x : NodeId} (h : d.WellFormed) :
    (replaceChild p new old).run d = .ok x d' ↔
      firstCause? (d.replaceCauses p new old) = none ∧ x = old ∧
      Spliced d d' p old [new] [(old, none), (new, some p)] := by
  refine (answers_replaceChild h p new old).run_eq_ok_iff
    (P := fun x d' => x = old ∧ Spliced d d' _ _ _ _) (fun x d' hrun => ?_)
    fun _ _ _ _ h₁ h₂ => ⟨h₁.1.trans h₂.1.symm, h₁.2.unique h h₂.2⟩
  rcases replaceChild_cases d p new old with ⟨i, hp, ha, hi, hok⟩ | ⟨e, herror⟩
  · rw [hok] at hrun
    cases hrun
    exact ⟨rfl, Document.spliced_swap h hp hi new⟩
  · exact absurd hrun (run_ne_ok herror)

/-- Removing a child ends well exactly if no cause forbids it, and then nothing stands in its
    place. -/
theorem run_removeChild_iff {x : NodeId} (h : d.WellFormed) :
    (removeChild p c).run d = .ok x d' ↔
      firstCause? (d.removeCauses p c) = none ∧ x = c ∧ Spliced d d' p c [] [(c, none)] := by
  refine (answers_removeChild h p c).run_eq_ok_iff
    (P := fun x d' => x = c ∧ Spliced d d' _ _ _ _) (fun x d' hrun => ?_)
    fun _ _ _ _ h₁ h₂ => ⟨h₁.1.trans h₂.1.symm, h₁.2.unique h h₂.2⟩
  rcases removeChild_cases d p c with ⟨hp, -, hok⟩ | ⟨e, herror⟩
  · rw [hok] at hrun
    cases hrun
    exact ⟨rfl, Document.spliced_unlink h hp⟩
  · exact absurd hrun (run_ne_ok herror)

/-- Detaching a node ends well exactly if no cause forbids it; a node without parent is left
    alone. -/
theorem run_detach_iff (h : d.WellFormed) :
    (detach n).run d = .ok () d' ↔ firstCause? (d.moveCauses n) = none ∧
      (d.parent? n = none → d' = d) ∧
      ∀ p, d.parent? n = some p → Spliced d d' p n [] [(n, none)] := by
  refine (answers_detach h n).run_eq_ok_iff
    (P := fun _ d' => (d.parent? n = none → d' = d) ∧
      ∀ p, d.parent? n = some p → Spliced d d' p n [] [(n, none)])
    (fun _ d' hrun => ?_) fun _ d₁ _ d₂ h₁ h₂ => ⟨rfl, ?_⟩
  · rcases detach_cases d n with ⟨-, -, hp, hok⟩ | ⟨p, -, hp, -, hok⟩ | ⟨e, herror⟩
    · rw [hok] at hrun
      cases hrun
      rw [hp]
      exact ⟨fun _ => rfl, fun p hp => nomatch hp⟩
    · rw [hok] at hrun
      cases hrun
      have hspliced := Document.spliced_unlink h hp
      rw [hp]
      exact ⟨fun hp => absurd hp (by simp), fun q hq => Option.some.inj hq ▸ hspliced⟩
    · exact absurd hrun (run_ne_ok herror)
  · cases hp : d.parent? n with
    | none => exact (h₁.1 hp).trans (h₂.1 hp).symm
    | some p => exact (h₁.2 p hp).unique h (h₂.2 p hp)

/-- Discarding a node ends well exactly if no cause forbids it, and then its subtree is pruned. -/
theorem run_discard_iff (h : d.WellFormed) :
    (Edit.discard n).run d = .ok () d' ↔
      firstCause? (d.moveCauses n) = none ∧ Pruned d d' n := by
  refine (answers_discard h n).run_eq_ok_iff (P := fun _ d' => Pruned d d' n)
    (fun _ d' hrun => ?_) fun _ _ _ _ h₁ h₂ => ⟨rfl, h₁.unique h h₂⟩
  rcases discard_cases h n with ⟨-, -, hok⟩ | ⟨e, herror⟩
  · rw [hok] at hrun
    cases hrun
    exact Document.pruned_without h n
  · exact absurd hrun (run_ne_ok herror)

/-- Taking out again what has been put at the end leaves no trace. -/
theorem run_removeChild_of_appendChild (h : d.WellFormed)
    (hrun : (appendChild p c).run d = .ok () d') : (removeChild p c).run d' = .ok c d := by
  rcases appendChild_cases d p c with ⟨ha, hok⟩ | ⟨-, e, herror⟩
  · rw [hok] at hrun
    cases hrun
    have hp : (d.attach p c (· ++ [c])).parent? c = some p := by
      rw [Document.parent?_attach ha.contains, if_pos rfl]
    have hcon : (d.attach p c (· ++ [c])).contains p = true := by
      rw [Document.contains_attach, ha.contains_parent]
    rw [run_removeChild hp hcon, Document.unlink_attach h ha]
  · exact absurd hrun (run_ne_ok herror)

end Edit

/-! ### Documents with a history -/

namespace Conversion

open Edit

/-- Every edit of the links of a document with a history succeeds exactly if none of its conditions
    holds, and the document it gives then is the old one, but for what the edit is about: the child
    stands at the end of the list, directly before the given child, in the place of another one, or
    not at all, and only the parents of the nodes named are others. Discarding puts the node and all
    that is below it out of use and takes the node out of the list of its parent. All other slots,
    whether they are connected, detached or discarded, are the same. -/
theorem reachable_edits_exact (h : Reachable d) :
    (∀ p c d', (appendChild p c).run d = .ok () d' ↔ firstCause? (d.attachCauses p c) = none ∧
      Relinked d d' [(p, d.children p ++ [c])] [(c, some p)]) ∧
    (∀ p c before d', (insertBefore p c before).run d = .ok () d' ↔
      firstCause? (d.insertCauses p c before) = none ∧
      Spliced d d' p before [c, before] [(c, some p)]) ∧
    (∀ p new old x d', (replaceChild p new old).run d = .ok x d' ↔
      firstCause? (d.replaceCauses p new old) = none ∧ x = old ∧
      Spliced d d' p old [new] [(old, none), (new, some p)]) ∧
    (∀ p c x d', (removeChild p c).run d = .ok x d' ↔ firstCause? (d.removeCauses p c) = none ∧
      x = c ∧ Spliced d d' p c [] [(c, none)]) ∧
    (∀ n d', (detach n).run d = .ok () d' ↔ firstCause? (d.moveCauses n) = none ∧
      (d.parent? n = none → d' = d) ∧
      ∀ p, d.parent? n = some p → Spliced d d' p n [] [(n, none)]) ∧
    (∀ n d', (Edit.discard n).run d = .ok () d' ↔ firstCause? (d.moveCauses n) = none ∧
      Pruned d d' n) ∧
    ∀ p c d', (appendChild p c).run d = .ok () d' → (removeChild p c).run d' = .ok c d := by
  have hwf := h.wellFormed
  exact ⟨fun _ _ _ => run_appendChild_iff hwf, fun _ _ _ _ => run_insertBefore_iff hwf,
    fun _ _ _ _ _ => run_replaceChild_iff hwf, fun _ _ _ _ => run_removeChild_iff hwf,
    fun _ _ => run_detach_iff hwf, fun _ _ => run_discard_iff hwf,
    fun _ _ _ => run_removeChild_of_appendChild hwf⟩

/-- A paragraph that is not in the tree is put into it in three ways, taken out again, and
    discarded with its text. -/
theorem reachable_edits_exact_of_loose :
    let d := runAll .empty [.createElement "p" .empty, .createText "x", .createElement "b" .empty,
      .createElement "i" .empty, .appendChild ⟨1⟩ ⟨2⟩, .appendChild root ⟨3⟩, .appendChild root ⟨4⟩]
    Reachable d ∧
    (∃ d', (appendChild ⟨3⟩ ⟨1⟩).run d = .ok () d' ∧
      Relinked d d' [(⟨3⟩, d.children ⟨3⟩ ++ [⟨1⟩])] [(⟨1⟩, some ⟨3⟩)] ∧
      (removeChild ⟨3⟩ ⟨1⟩).run d' = .ok ⟨1⟩ d) ∧
    (∃ d', (insertBefore root ⟨1⟩ ⟨4⟩).run d = .ok () d' ∧
      Spliced d d' root ⟨4⟩ [⟨1⟩, ⟨4⟩] [(⟨1⟩, some root)]) ∧
    (∃ d', (replaceChild root ⟨1⟩ ⟨3⟩).run d = .ok ⟨3⟩ d' ∧
      Spliced d d' root ⟨3⟩ [⟨1⟩] [(⟨3⟩, none), (⟨1⟩, some root)]) ∧
    ∃ d', (Edit.discard ⟨1⟩).run d = .ok () d' ∧ Pruned d d' ⟨1⟩ := by
  intro d
  have h : Reachable d := Reachable.empty.runAll _
  have hcauses : firstCause? (d.attachCauses ⟨3⟩ ⟨1⟩) = none ∧
      firstCause? (d.insertCauses root ⟨1⟩ ⟨4⟩) = none ∧
      firstCause? (d.replaceCauses root ⟨1⟩ ⟨3⟩) = none ∧
      firstCause? (d.moveCauses ⟨1⟩) = none := by decide
  clear_value d
  obtain ⟨happend, hinsert, hreplace, hmove⟩ := hcauses
  obtain ⟨hall₁, hall₂, hall₃, -, -, hall₄, hrestore⟩ := reachable_edits_exact h
  have hwf := h.wellFormed
  obtain ⟨_, d₁, hrun₁⟩ := (answers_appendChild hwf ⟨3⟩ ⟨1⟩).exists_run happend
  obtain ⟨_, d₂, hrun₂⟩ := (answers_insertBefore hwf root ⟨1⟩ ⟨4⟩).exists_run hinsert
  obtain ⟨x, d₃, hrun₃⟩ := (answers_replaceChild hwf root ⟨1⟩ ⟨3⟩).exists_run hreplace
  obtain ⟨_, d₄, hrun₄⟩ := (answers_discard hwf ⟨1⟩).exists_run hmove
  obtain ⟨-, rfl, hspliced⟩ := (hall₃ _ _ _ _ _).mp hrun₃
  exact ⟨h, ⟨d₁, hrun₁, ((hall₁ _ _ _).mp hrun₁).2, hrestore _ _ _ hrun₁⟩,
    ⟨d₂, hrun₂, ((hall₂ _ _ _ _).mp hrun₂).2⟩, ⟨d₃, hrun₃, hspliced⟩,
    d₄, hrun₄, ((hall₄ _ _).mp hrun₄).2⟩

end Conversion

end AmpMarkup
