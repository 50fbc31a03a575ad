import AmpMarkup.Document.Copy
import AmpMarkup.Proofs.Conversion.LinkInvariant
import AmpMarkup.Proofs.Document.Html
import AmpMarkup.Proofs.Document.Outline

namespace AmpMarkup

open Document (root DeepCopy Mirrors)

/-!
# Copies are faithful

A copy shows the tree of its original. From that it follows that both are the same node by node, and
that they have the same texts. The old slots are left alone: those of live nodes since no link to
them is made, and the discarded ones since no edit reaches them.

* `mirrors_of_tree_eq` — what shows the same tree is the same node by node.
* `Untouched`, `keptBySlots_untouched` — discarded slots are never changed again.
* `Copied.deepCopy` — from the tree of a copy to all that a copy is.
* `reachable_copies_faithful` — for every document with a history.
-/

variable {d d' d₁ : Document} {m n c : NodeId}

namespace Document

/-! ### Node by node -/

/-- Nodes that show the same tree mirror each other. -/
theorem mirrors_of_tree_eq (h : d.WellFormed) (h' : d'.WellFormed) (hn : d.contains n = true)
    (hm : d'.contains m = true) (htree : d'.tree m = d.tree n) : Mirrors d d' n m := by
  induction n using h.induction_down generalizing m with
  | _ n ih =>
    obtain ⟨k, hk⟩ := exists_kind? hn
    obtain ⟨k', hk'⟩ := exists_kind? hm
    rw [tree_kind h' hk', tree_kind h hk, Tree.node.injEq] at htree
    obtain ⟨hkind, hchildren⟩ := htree
    refine .node hn (by rw [hk, hk', hkind]) (List.forall₂_iff_get.mpr ⟨?_, fun i hi hi' => ?_⟩)
    · simpa using (congrArg List.length hchildren).symm
    · have hc := List.getElem_mem hi
      refine ih _ hc (h.contains_child hc) (h'.contains_child (List.getElem_mem hi')) ?_
      have hget := congrArg (·[i]?) hchildren
      simpa [hi, hi'] using hget

/-! ### Discarded slots -/

/-- The discarded slots of `d` are the same in `d'`. -/
structure Untouched (d d' : Document) : Prop where
  slot (i : Nat) (s : Slot) : d.slots[i]? = some s → s.live = false → d'.slots[i]? = some s

end Document

namespace Edit

open Document (Untouched)

/-- No change of a single slot reaches a discarded one. -/
theorem keptBySlots_untouched (d : Document) : KeptBySlots (Untouched d) where
  create k d₁ h := by
    refine ⟨fun i s hs hdead => ?_⟩
    have hget := h.slot i s hs hdead
    have hi : i < d₁.slots.size := (Array.getElem?_eq_some_iff.mp hget).1
    show (d₁.push k).slots[i]? = some s
    rw [Document.push, Array.getElem?_push, if_neg (Nat.ne_of_lt hi), hget]
  modifySlot n f _ d₁ h := by
    cases hn : d₁.contains n with
    | false => rwa [exec_of_error (run_modifySlot_of_not_contains hn f)]
    | true =>
      rw [exec_of_ok (run_modifySlot hn f)]
      refine ⟨fun i s hs hdead => ?_⟩
      have hget := h.slot i s hs hdead
      have hslot := Document.slots_modifySlot d₁ ⟨i⟩ n f
      have hne : (⟨i⟩ : NodeId) ≠ n := by
        rintro rfl
        have hlive := (Document.slot?_eq_some_iff.mp (Document.slot?_of_slots hn hget)).2
        rw [hdead] at hlive
        cases hlive
      rw [hslot, if_neg hne, hget]

end Edit

namespace Document

/-! ### Copies -/

/-- A slot that reads the same and is not touched while it is out of use is the same. -/
theorem Untouched.slots_eq (h : Untouched d d') {i : Nat} (hi : i < d.size)
    (hsame : SameAt d d' ⟨i⟩) : d'.slots[i]? = d.slots[i]? := by
  have hget := Array.getElem?_eq_getElem hi
  cases hlive : d.slots[i].live with
  | false => rw [h.slot i _ hget hlive, hget]
  | true =>
    have hs : d.slot? ⟨i⟩ = some d.slots[i] := slot?_eq_some_iff.mpr ⟨hget, hlive⟩
    rw [hget, (slot?_eq_some_iff.mp (Eq.trans hsame hs)).1]

/-- What is known of copying a subtree makes the copy a faithful one. -/
theorem Copied.deepCopy (hc : Copied d d' n c) (h : d.WellFormed) (hn : d.contains n = true)
    (hold : Untouched d d') : DeepCopy d d' n c := by
  obtain ⟨k, hk⟩ := exists_kind? hn
  have hcon : d'.contains c = true := contains_of_kind? (hc.kind.trans hk)
  have hlength : (d.subtree n).length = 1 + (d.descendants n).length := by
    rw [subtree_eq_cons_descendants h, List.length_cons, Nat.add_comm]
  refine ⟨hc.copy_eq, hc.detached, mirrors_of_tree_eq h hc.wellFormed hn hcon hc.tree, ?_, ?_,
    fun i hi => hold.slots_eq hi (hc.same ⟨i⟩ hi), ?_, ?_⟩
  · rw [hc.size_eq, hlength]
  · rw [← subtree_eq_cons_descendants hc.wellFormed, ← hlength]
    exact hc.perm_index h hn
  · rw [toHtml_eq hc.wellFormed hcon, toHtml_eq h hn, hc.tree]
  · rw [outline_eq hc.wellFormed hcon, outline_eq h hn, hc.tree]

end Document

/-! ### Documents with a history -/

namespace Conversion

open Edit

/-- A live node of a document with a history can always be copied. A deep copy is a detached node
    that is the same as the original at every depth, node by node, with the same texts; its nodes
    fill the new slots, and no other slot changes. A shallow copy is one new slot, with what the
    node is and without links. -/
theorem reachable_copies_faithful (h : Reachable d) (hn : d.contains n = true) :
    (∃ d', (cloneNode n true).run d = .ok d.nextId d' ∧ DeepCopy d d' n d.nextId) ∧
    ∃ k, d.kind? n = some k ∧ (cloneNode n false).run d =
      .ok d.nextId ⟨d.slots.push { kind := k, parent? := none, children := [], live := true }⟩ := by
  have hwf := h.wellFormed
  constructor
  · obtain ⟨d', hrun, hc⟩ := run_cloneNode hwf hn
    have hold := (keptBySlots_untouched d).cloneNode n true d ⟨fun _ _ hs _ => hs⟩
    rw [exec_of_ok hrun] at hold
    exact ⟨d', hrun, hc.deepCopy hwf hn hold⟩
  · obtain ⟨k, hk⟩ := Document.exists_kind? hn
    exact ⟨k, hk, run_cloneNode_shallow hk⟩

/-- An element with children, of which one has been discarded. -/
theorem reachable_copies_faithful_of_nested :
    let d := runAll .empty [.createElement "div" .empty, .createElement "b" .empty,
      .createElement "i" .empty, .createText "y", .createElement "a" .empty, .appendChild ⟨1⟩ ⟨2⟩,
      .appendChild ⟨2⟩ ⟨3⟩, .appendChild ⟨2⟩ ⟨4⟩, .appendChild ⟨1⟩ ⟨5⟩, .discard ⟨5⟩]
    Reachable d ∧ d.contains ⟨1⟩ = true ∧ d.descendants ⟨1⟩ = [⟨2⟩, ⟨3⟩, ⟨4⟩] ∧
    (∃ d', (cloneNode ⟨1⟩ true).run d = .ok ⟨6⟩ d' ∧ DeepCopy d d' ⟨1⟩ ⟨6⟩) ∧
    (cloneNode ⟨1⟩ false).run d = .ok ⟨6⟩ ⟨d.slots.push { kind := .ofElement "div" .empty }⟩ := by
  intro d
  have h : Reachable d := Reachable.empty.runAll _
  have hfacts : d.contains ⟨1⟩ = true ∧ d.descendants ⟨1⟩ = [⟨2⟩, ⟨3⟩, ⟨4⟩] ∧
      d.nextId = ⟨6⟩ := by decide
  have hkind : d.kind? ⟨1⟩ = some (.ofElement "div" .empty) := rfl
  clear_value d
  obtain ⟨hn, hbelow, hnext⟩ := hfacts
  obtain ⟨hdeep, k, hk, hshallow⟩ := reachable_copies_faithful h hn
  obtain rfl := Option.some.inj (hkind.symm.trans hk)
  rw [hnext] at hdeep hshallow
  exact ⟨h, hn, hbelow, hdeep, hshallow⟩

end Conversion

end AmpMarkup
