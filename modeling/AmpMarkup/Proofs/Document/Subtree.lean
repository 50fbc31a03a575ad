import Mathlib.Algebra.Order.Ring.Nat
import AmpMarkup.Document.Preorder
import AmpMarkup.Document.Tree
import AmpMarkup.Proofs.Document.Lineage

namespace AmpMarkup.Document

/-!
# Recursion over a well-formed document

The readings that look below a node stop after as many steps as there are slots. In a well-formed
document that is enough, so each of them is a recursion over the children.

* `fold` — a computation from the leaves to a node; `fold_eq` is its recursion.
* `WellFormed.induction_down` — what passes from the children to a node holds of every node;
  `WellFormed.induction_up` — so does what passes from the parent to a node.
* `subtree d n` — a node and all that is below it, in document order; `mem_subtree_iff`,
  `pairwise_subtree`.
* `descendants_eq`, `tree_eq` — the computed readings as recursions.
* `fold_congr`, `tree_congr` — they depend on nothing but the slots below the node.
* `Tree.sizeAll_append` and its like, `size_tree` — how many nodes a tree shows.
-/

variable {d d' : Document} {m n p c : NodeId} {α : Type}

/-! ### Computations from the leaves -/

/-- What `f` makes of `n` and of the results for its children, down to the given depth. -/
def foldUpTo (d : Document) (f : NodeId → List α → α) : Nat → NodeId → α
  | 0, n => f n []
  | k + 1, n => f n ((d.children n).map (d.foldUpTo f k))

/-- What `f` makes of `n` and of the results for its children. -/
def fold (d : Document) (f : NodeId → List α → α) (n : NodeId) : α := d.foldUpTo f d.size n

/-- The way up from a node with a child is shorter than the number of slots. -/
theorem length_lineage_lt_of_child (hwf : d.WellFormed) (hc : c ∈ d.children n) :
    (d.lineage n).length < d.size := by
  have hle := length_lineage_le hwf (hwf.contains_child hc)
  rw [length_lineage_child hwf hc] at hle
  exact hle

/-- A depth that reaches the deepest nodes is as good as any other. -/
theorem foldUpTo_eq_of_le (hwf : d.WellFormed) (f : NodeId → List α → α) {j k : Nat}
    (hj : d.size ≤ j + (d.lineage n).length) (hk : d.size ≤ k + (d.lineage n).length) :
    d.foldUpTo f j n = d.foldUpTo f k n := by
  -- Without a step to go there are no children left.
  have hnil : ∀ n, d.size ≤ 0 + (d.lineage n).length → d.children n = [] := by
    intro n hn
    refine List.eq_nil_iff_forall_not_mem.mpr fun c hc => ?_
    have := length_lineage_lt_of_child hwf hc
    omega
  induction j generalizing k n with
  | zero => cases k <;> simp [foldUpTo, hnil n hj]
  | succ j ih =>
    cases k with
    | zero => simp [foldUpTo, hnil n hk]
    | succ k =>
      rw [foldUpTo, foldUpTo]
      congr 1
      refine List.map_congr_left fun c hc => ?_
      have hlen := length_lineage_child hwf hc
      exact ih (by omega) (by omega)

/-- A fold is a recursion over the children. -/
theorem fold_eq (hwf : d.WellFormed) (f : NodeId → List α → α) (n : NodeId) :
    d.fold f n = f n ((d.children n).map (d.fold f)) := by
  have hstep : d.fold f n = d.foldUpTo f (d.size + 1) n :=
    foldUpTo_eq_of_le hwf f (by omega) (by omega)
  rw [hstep, foldUpTo]
  rfl

/-- What holds of a node as soon as it holds of its children holds of every node. -/
theorem WellFormed.induction_down (hwf : d.WellFormed) {motive : NodeId → Prop}
    (step : ∀ n, (∀ c ∈ d.children n, motive c) → motive n) (n : NodeId) : motive n := by
  -- The number of levels that are still free below the node goes down.
  generalize hk : d.size - (d.lineage n).length = k
  induction k using Nat.strongRecOn generalizing n with
  | ind k ih =>
    refine step n fun c hc => ih _ ?_ c rfl
    have hlt := length_lineage_lt_of_child hwf hc
    have hlen := length_lineage_child hwf hc
    omega

/-- What holds of a node as soon as it holds of its parent holds of every node. -/
theorem WellFormed.induction_up (hwf : d.WellFormed) {motive : NodeId → Prop}
    (step : ∀ n, (∀ p, d.parent? n = some p → motive p) → motive n) (n : NodeId) : motive n := by
  -- The lineage gets shorter.
  generalize hk : (d.lineage n).length = k
  induction k using Nat.strongRecOn generalizing n with
  | ind k ih =>
    refine step n fun p hp => ih _ ?_ p rfl
    have hlen := length_lineage_child hwf (hwf.mem_children hp)
    omega

/-- A fold reads nothing but what is below the node. -/
theorem fold_congr (hwf : d.WellFormed) (hwf' : d'.WellFormed) {f f' : NodeId → List α → α}
    (hsame : ∀ m, d.Below m n → d'.children m = d.children m ∧ f' m = f m) :
    d'.fold f' n = d.fold f n := by
  induction n using hwf.induction_down with
  | _ n ih =>
    obtain ⟨hch, hf⟩ := hsame n (below_refl d n)
    rw [fold_eq hwf', fold_eq hwf, hch, hf]
    congr 1
    refine List.map_congr_left fun c hc => ih c hc fun m hm => ?_
    exact hsame m (below_of_mem_children hwf hc hm)

/-! ### Subtrees as lists -/

/-- `n` and all that is below it, each node before what is below it. -/
def subtree (d : Document) (n : NodeId) : List NodeId :=
  d.fold (fun n below => n :: below.flatten) n

/-- A subtree is its top followed by the subtrees of the children, in order. -/
theorem subtree_eq (hwf : d.WellFormed) (n : NodeId) :
    d.subtree n = n :: (d.children n).flatMap d.subtree := by
  rw [subtree, fold_eq hwf, List.flatMap_def]
  rfl

/-- A subtree is all that is below its top. -/
theorem mem_subtree_iff (hwf : d.WellFormed) : m ∈ d.subtree n ↔ d.Below m n := by
  induction n using hwf.induction_down with
  | _ n ih =>
    rw [subtree_eq hwf, List.mem_cons, List.mem_flatMap]
    constructor
    · rintro (rfl | ⟨c, hc, hm⟩)
      · exact below_refl d m
      · exact below_of_mem_children hwf hc ((ih c hc).mp hm)
    · intro h
      rcases h.cases_child hwf with rfl | ⟨c, hc, hm⟩
      · exact .inl rfl
      · exact .inr ⟨c, hc, (ih c hc).mpr hm⟩

/-- Children of one node have no node below both. -/
theorem pairwise_children_subtrees (hwf : d.WellFormed) (n : NodeId) :
    (d.children n).Pairwise fun a b => ∀ x ∈ d.subtree a, ∀ y ∈ d.subtree b, ¬ d.Below x y := by
  refine (hwf.nodup_children n).imp_of_mem fun {a b} ha hb hne x hx y hy hxy => hne ?_
  exact eq_of_below_children hwf ha hb ((mem_subtree_iff hwf).mp hx)
    (hxy.trans ((mem_subtree_iff hwf).mp hy))

/-- A node that stands earlier is never below one that stands later. -/
theorem pairwise_subtree (hwf : d.WellFormed) (n : NodeId) :
    (d.subtree n).Pairwise fun a b => ¬ d.Below a b := by
  induction n using hwf.induction_down with
  | _ n ih =>
    rw [subtree_eq hwf, List.pairwise_cons, List.pairwise_flatMap]
    refine ⟨fun m hm hnm => ?_, ih, pairwise_children_subtrees hwf n⟩
    obtain ⟨c, hc, hmc⟩ := List.mem_flatMap.mp hm
    exact hwf.not_below_of_parent (hwf.parent_of_mem hc)
      (hnm.trans ((mem_subtree_iff hwf).mp hmc))

/-- What is not below each other is not the same. -/
theorem nodup_of_pairwise_not_below {l : List NodeId}
    (h : l.Pairwise fun a b => ¬ d.Below a b) : l.Nodup :=
  h.imp fun {a b} (hab : ¬ d.Below a b) (heq : a = b) => hab (heq ▸ below_refl d a)

/-- No node occurs twice in a subtree. -/
theorem nodup_subtree (hwf : d.WellFormed) (n : NodeId) : (d.subtree n).Nodup :=
  nodup_of_pairwise_not_below (pairwise_subtree hwf n)

/-- The nodes of the subtree of a live node are live. -/
theorem contains_of_mem_subtree (hwf : d.WellFormed) (hn : d.contains n = true)
    (hm : m ∈ d.subtree n) : d.contains m = true :=
  ((mem_subtree_iff hwf).mp hm).contains_lower hn

/-- A subtree has no more nodes than there are slots. -/
theorem length_subtree_le (hwf : d.WellFormed) (hn : d.contains n = true) :
    (d.subtree n).length ≤ d.size :=
  length_le_size (nodup_subtree hwf n) fun _ => contains_of_mem_subtree hwf hn

/-! ### The computed readings -/

/-- With enough steps a walk over nodes still to be visited lists their subtrees. -/
theorem preorder_eq_flatMap (hwf : d.WellFormed) {fuel : Nat} {ns : List NodeId}
    (h : (ns.flatMap d.subtree).length ≤ fuel) : d.preorder fuel ns = ns.flatMap d.subtree := by
  induction fuel generalizing ns with
  | zero =>
    have hnil : ns.flatMap d.subtree = [] := List.eq_nil_of_length_eq_zero (Nat.le_zero.mp h)
    rw [hnil, preorder]
  | succ fuel ih =>
    cases ns with
    | nil => rfl
    | cons n rest =>
      -- The first node is visited, and its children are put before the rest.
      have hcons : (n :: rest).flatMap d.subtree =
          n :: (d.children n ++ rest).flatMap d.subtree := by
        rw [List.flatMap_cons, subtree_eq hwf, List.flatMap_append, List.cons_append]
      rw [hcons, List.length_cons] at h
      rw [hcons, preorder, ih (by omega)]

/-- A subtree is its top followed by the descendants of the top. -/
theorem subtree_eq_cons_descendants (hwf : d.WellFormed) (n : NodeId) :
    d.subtree n = n :: d.descendants n := by
  rw [subtree_eq hwf, descendants]
  cases hn : d.contains n with
  | false => rw [children_eq_nil_of_not_contains hn, preorder_eq_flatMap hwf (by simp)]
  | true =>
    rw [preorder_eq_flatMap hwf]
    have hle := length_subtree_le hwf hn
    rw [subtree_eq hwf, List.length_cons] at hle
    omega

/-- The descendants of a node are the subtrees of its children, in order. -/
theorem descendants_eq_flatMap (hwf : d.WellFormed) (n : NodeId) :
    d.descendants n = (d.children n).flatMap d.subtree := by
  have h := subtree_eq_cons_descendants hwf n
  rw [subtree_eq hwf, List.cons.injEq] at h
  exact h.2.symm

/-- The descendants of a node are its children, each with its descendants. -/
theorem descendants_eq (hwf : d.WellFormed) (n : NodeId) :
    d.descendants n = (d.children n).flatMap fun c => c :: d.descendants c := by
  rw [descendants_eq_flatMap hwf]
  exact congrArg (List.flatMap · _) (funext (subtree_eq_cons_descendants hwf))

/-- The descendants of a node are all that is strictly below it. -/
theorem mem_descendants_iff (hwf : d.WellFormed) :
    m ∈ d.descendants n ↔ d.Below m n ∧ m ≠ n := by
  have hnd := nodup_subtree hwf n
  rw [subtree_eq_cons_descendants hwf, List.nodup_cons] at hnd
  rw [← mem_subtree_iff hwf, subtree_eq_cons_descendants hwf, List.mem_cons]
  constructor
  · exact fun h => ⟨.inr h, fun heq => hnd.1 (heq ▸ h)⟩
  · rintro ⟨heq | h, hne⟩
    · exact absurd heq hne
    · exact h

/-- Reading a tree is folding over the subtree with nodes for the kinds. -/
theorem treeUpTo_eq_foldUpTo (d : Document) (k : Nat) :
    d.treeUpTo k =
      d.foldUpTo (fun n children => .node ((d.kind? n).getD .document) children) k := by
  induction k with
  | zero => rfl
  | succ k ih =>
    funext n
    rw [treeUpTo, foldUpTo, ih]

/-- The tree of a node is made of the trees of its children. -/
theorem tree_eq (hwf : d.WellFormed) (n : NodeId) :
    d.tree n = .node ((d.kind? n).getD .document) ((d.children n).map d.tree) := by
  have h : ∀ n, d.tree n = d.fold (fun n ts => .node ((d.kind? n).getD .document) ts) n :=
    fun n => congrFun (treeUpTo_eq_foldUpTo d d.size) n
  rw [h, fold_eq hwf]
  congr 1
  exact List.map_congr_left fun c _ => (h c).symm

/-- The tree of a node has its kind on top and the trees of its children under it. -/
theorem tree_kind {k : NodeKind} (hwf : d.WellFormed) (hk : d.kind? n = some k) :
    d.tree n = .node k ((d.children n).map d.tree) := by
  rw [tree_eq hwf, hk, Option.getD_some]

/-- A tree shows nothing but what is below its top. -/
theorem tree_congr (hwf : d.WellFormed) (hwf' : d'.WellFormed)
    (hsame : ∀ m, d.Below m n → d'.kind? m = d.kind? m ∧ d'.children m = d.children m) :
    d'.tree n = d.tree n := by
  induction n using hwf.induction_down with
  | _ n ih =>
    obtain ⟨hk, hch⟩ := hsame n (below_refl d n)
    rw [tree_eq hwf', tree_eq hwf, hk, hch]
    congr 1
    refine List.map_congr_left fun c hc => ih c hc fun m hm => ?_
    exact hsame m (below_of_mem_children hwf hc hm)

/-- The same nodes are below a node if all of them keep their children. -/
theorem subtree_congr (hwf : d.WellFormed) (hwf' : d'.WellFormed)
    (hsame : ∀ m, d.Below m n → d'.children m = d.children m) :
    d'.subtree n = d.subtree n :=
  fold_congr hwf hwf' fun m hm => ⟨hsame m hm, rfl⟩

/-- Where no list of children has changed the same nodes are below each other. -/
theorem below_congr (hwf : d.WellFormed) (hwf' : d'.WellFormed)
    (hsame : ∀ m, d.Below m n → d'.children m = d.children m) :
    d'.Below m n ↔ d.Below m n := by
  rw [← mem_subtree_iff hwf', ← mem_subtree_iff hwf, subtree_congr hwf hwf' hsame]

end AmpMarkup.Document

namespace AmpMarkup

/-! ### Sizes of trees -/

namespace Tree

/-- Sizes add up. -/
theorem sizeAll_append (ts us : List Tree) : sizeAll (ts ++ us) = sizeAll ts + sizeAll us := by
  induction ts with
  | nil => simp [sizeAll]
  | cons t rest ih => simp [sizeAll, ih, Nat.add_assoc]

/-- The size of a single tree in a list is its own. -/
theorem sizeAll_singleton (t : Tree) : sizeAll [t] = t.size := by simp [sizeAll]

/-- The size of trees that are listed one after the other is the sum of their sizes. -/
theorem sizeAll_flatMap {α : Type} (l : List α) (f : α → List Tree) :
    sizeAll (l.flatMap f) = (l.map fun a => sizeAll (f a)).sum := by
  induction l with
  | nil => rfl
  | cons a rest ih => rw [List.flatMap_cons, sizeAll_append, ih, List.map_cons, List.sum_cons]

@[simp] theorem size_mapAttributes (t : Tree) (f : Attributes → Attributes) :
    (t.mapAttributes f).size = t.size := by
  cases t
  simp [mapAttributes, size]

end Tree

/-- The tree of a node shows each node of the subtree once. -/
theorem Document.size_tree {d : Document} (h : d.WellFormed) (n : NodeId) :
    (d.tree n).size = (d.subtree n).length := by
  induction n using h.induction_down with
  | _ n ih =>
    rw [tree_eq h, Tree.size, subtree_eq h, List.length_cons,
      List.length_flatMap, List.map_eq_flatMap, Tree.sizeAll_flatMap, Nat.add_comm]
    congr 2
    exact List.map_congr_left fun c hc => by rw [Tree.sizeAll_singleton, ih c hc]

end AmpMarkup
