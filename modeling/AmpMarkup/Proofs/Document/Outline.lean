import AmpMarkup.Document.TreeText
import AmpMarkup.Proofs.Document.Subtree

namespace AmpMarkup

/-!
# Outlines by recursion

The lines of a document are made with a list of nodes that are still to be shown. Every node takes
one step, so in a well-formed document the steps are enough, and the lines are those of the tree.

* `Tree.listOutline_eq_flatMap` — the lines of trees are those of each of them.
* `Document.outline_eq` — the lines of a node are the lines of its tree.
-/

/-- The lines of trees stand one after the other. -/
theorem Tree.listOutline_eq_flatMap (depth : Nat) (ts : List Tree) :
    Tree.listOutline depth ts = ts.flatMap (Tree.outline depth) := by
  induction ts with
  | nil => rfl
  | cons t rest ih => rw [Tree.listOutline, ih, List.flatMap_cons]

namespace Document

variable {d : Document} {n : NodeId}

/-- The entry of a node is that of its kind. -/
theorem outlineEntry?_of_kind? {k : NodeKind} (hk : d.kind? n = some k) :
    d.outlineEntry? n = k.outlineEntry? := by
  unfold outlineEntry?
  rw [hk]

/-- The lines of a node are its own, if it has one, and those of its children. -/
theorem outline_tree (h : d.WellFormed) {k : NodeKind} (hk : d.kind? n = some k) (depth : Nat) :
    (d.tree n).outline depth = match k.outlineEntry? with
      | none => []
      | some entry => indented depth entry ::
        (d.children n).flatMap fun c => (d.tree c).outline (depth + 1) := by
  rw [tree_kind h hk, Tree.outline]
  cases k.outlineEntry? with
  | none => rfl
  | some entry =>
    dsimp only
    rw [Tree.listOutline_eq_flatMap, List.flatMap_map]

/-- With enough steps the lines of all nodes that are still to be shown are there. -/
theorem outlineLines_eq_flatMap (h : d.WellFormed) {fuel : Nat} {entries : List (NodeId × Nat)}
    (hlive : ∀ e ∈ entries, d.contains e.1 = true)
    (hfuel : (entries.flatMap fun e => d.subtree e.1).length ≤ fuel) :
    d.outlineLines fuel entries = entries.flatMap fun e => (d.tree e.1).outline e.2 := by
  induction fuel generalizing entries with
  | zero =>
    cases entries with
    | nil => rfl
    | cons e rest =>
      rw [List.flatMap_cons, subtree_eq h] at hfuel
      simp at hfuel
  | succ fuel ih =>
    cases entries with
    | nil => rfl
    | cons e rest =>
      obtain ⟨n, depth⟩ := e
      obtain ⟨k, hk⟩ := exists_kind? (hlive _ List.mem_cons_self)
      have hrest : ∀ e ∈ rest, d.contains e.1 = true := fun e he =>
        hlive e (List.mem_cons_of_mem _ he)
      rw [List.flatMap_cons, subtree_eq h, List.cons_append, List.length_cons,
        List.length_append] at hfuel
      rw [List.flatMap_cons, outline_tree h hk, outlineLines, outlineEntry?_of_kind? hk]
      cases k.outlineEntry? with
      | none =>
        dsimp only
        rw [ih hrest (by omega), List.nil_append]
      | some entry =>
        dsimp only
        -- The children come first, one level deeper.
        have hchildren : ∀ e ∈ (d.children n).map (·, depth + 1) ++ rest,
            d.contains e.1 = true := by
          intro e he
          rcases List.mem_append.mp he with he | he
          · obtain ⟨c, hc, rfl⟩ := List.mem_map.mp he
            exact h.contains_child hc
          · exact hrest e he
        rw [ih hchildren, List.flatMap_append, List.flatMap_map, List.cons_append]
        rw [List.flatMap_append, List.flatMap_map, List.length_append]
        exact Nat.le_of_succ_le_succ hfuel

/-- The lines of a node are the lines of its tree. -/
theorem outline_eq (h : d.WellFormed) (hn : d.contains n = true) :
    d.outline n = (d.tree n).outline 0 := by
  have hle := length_subtree_le h hn
  rw [outline, outlineLines_eq_flatMap h (by simpa using hn), List.flatMap_singleton]
  rw [List.flatMap_singleton]
  exact Nat.le_succ_of_le hle

end Document

end AmpMarkup
