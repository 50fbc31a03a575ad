import AmpMarkup.Proofs.Document.Slots
import Mathlib.Data.List.Nodup
import Mathlib.Data.List.Perm.Subperm
import Mathlib.Logic.Relation

namespace AmpMarkup.Document

open Relation (ReflTransGen TransGen)

/-!
# Ancestors in well-formed documents

A lineage is computed with as many steps as there are slots. Where no node is above itself that is
always enough, so the computed readings agree with the paths along parent links.

* `Below d m n` — `n` is reached from `m` along parent links, `m` itself included.
* `lineage_eq` — a lineage is a node and the lineage of its parent.
* `mem_lineage_iff`, `isConnected_iff`, `isAncestor_iff` — what the computed readings mean.
* `length_lineage_le` — no node lies deeper than there are slots.
-/

variable {d d' : Document} {m n p c : NodeId}

/-- `n` is `m` or one of its ancestors. -/
def Below (d : Document) (m n : NodeId) : Prop := ReflTransGen d.IsParent m n

/-! ### Paths along parent links -/

namespace WellFormed

/-- The root is live. -/
theorem contains_root (h : d.WellFormed) : d.contains root = true :=
  contains_of_kind? h.kind_root

/-- A node is in the list of its parent. -/
theorem mem_children (h : d.WellFormed) (hp : d.parent? n = some p) : n ∈ d.children p :=
  (h.mem_children_iff n p).mpr hp

/-- A node that lists `c` is the parent of `c`. -/
theorem parent_of_mem (h : d.WellFormed) (hc : c ∈ d.children n) : d.parent? c = some n :=
  (h.mem_children_iff c n).mp hc

/-- A parent is live. -/
theorem contains_parent (h : d.WellFormed) (hp : d.parent? n = some p) : d.contains p = true :=
  contains_of_mem_children (h.mem_children hp)

/-- A child is live. -/
theorem contains_child (h : d.WellFormed) (hc : c ∈ d.children n) : d.contains c = true :=
  contains_of_parent? (h.parent_of_mem hc)

/-- A node with a parent is not the root. -/
theorem ne_root_of_parent (h : d.WellFormed) (hp : d.parent? n = some p) : n ≠ root :=
  (ne_of_parent? h.parent_root hp).symm

/-- A node is not above its own parent. -/
theorem not_below_of_parent (h : d.WellFormed) (hp : d.parent? n = some p) : ¬ d.Below p n := by
  intro hb
  exact h.acyclic n (TransGen.head' hp hb)

/-- No node is its own parent. -/
theorem parent_ne (h : d.WellFormed) (hp : d.parent? n = some p) : p ≠ n :=
  fun heq => h.not_below_of_parent hp (heq ▸ ReflTransGen.refl)

end WellFormed

/-- Every node counts as below itself. -/
theorem below_refl (d : Document) (n : NodeId) : d.Below n n := ReflTransGen.refl

/-- What is below something below `a` is below `a`. -/
theorem Below.trans {a : NodeId} (h₁ : d.Below m n) (h₂ : d.Below n a) : d.Below m a :=
  ReflTransGen.trans h₁ h₂

/-- A node is below its parent. -/
theorem below_of_parent (hp : d.parent? n = some p) : d.Below n p := ReflTransGen.single hp

/-- Parent links do not fork. -/
theorem isParent_rightUnique (d : Document) : Relator.RightUnique d.IsParent := by
  intro n p q hp hq
  rw [IsParent, hq] at hp
  exact (Option.some.inj hp).symm

/-- Of two ancestors of one node one is above the other. -/
theorem Below.total {a b : NodeId} (ha : d.Below n a) (hb : d.Below n b) :
    d.Below a b ∨ d.Below b a :=
  ReflTransGen.total_of_right_unique (isParent_rightUnique d) ha hb

/-- The first step up from a node that is below another one. -/
theorem Below.cases_parent (h : d.Below m n) :
    m = n ∨ ∃ p, d.parent? m = some p ∧ d.Below p n :=
  ReflTransGen.cases_head h

/-- The last step up, through a child of the upper node. -/
theorem Below.cases_child (hwf : d.WellFormed) (h : d.Below m n) :
    m = n ∨ ∃ c ∈ d.children n, d.Below m c := by
  rcases ReflTransGen.cases_tail h with rfl | ⟨c, hm, hc⟩
  · exact .inl rfl
  · exact .inr ⟨c, hwf.mem_children hc, hm⟩

/-- What is below a child of `n` is below `n`. -/
theorem below_of_mem_children (hwf : d.WellFormed) (hc : c ∈ d.children n) (h : d.Below m c) :
    d.Below m n :=
  h.trans (below_of_parent (hwf.parent_of_mem hc))

/-- Two nodes that are below each other are the same. -/
theorem Below.antisymm (hwf : d.WellFormed) (h₁ : d.Below m n) (h₂ : d.Below n m) : m = n := by
  rcases h₁.cases_parent with heq | ⟨p, hp, hpn⟩
  · exact heq
  · exact absurd (hpn.trans h₂) (hwf.not_below_of_parent hp)

/-- What is above a live node is live. -/
theorem Below.contains (hwf : d.WellFormed) (h : d.Below m n) (hm : d.contains m = true) :
    d.contains n = true := by
  rcases ReflTransGen.cases_tail h with rfl | ⟨c, -, hc⟩
  · exact hm
  · exact hwf.contains_parent hc

/-- Only live nodes have anything below them. -/
theorem Below.contains_lower (h : d.Below m n) (hn : d.contains n = true) :
    d.contains m = true := by
  rcases h.cases_parent with rfl | ⟨p, hp, -⟩
  · exact hn
  · exact contains_of_parent? hp

/-- What is below a child is below no other child of the same node. -/
theorem eq_of_below_children (hwf : d.WellFormed) {a b : NodeId} (ha : a ∈ d.children n)
    (hb : b ∈ d.children n) (hma : d.Below m a) (hmb : d.Below m b) : a = b := by
  -- One of the two children would be above the other, and so above their common parent.
  have key : ∀ {x y : NodeId}, x ∈ d.children n → y ∈ d.children n → d.Below x y → x = y := by
    intro x y hx hy hxy
    rcases hxy.cases_parent with heq | ⟨q, hq, hqy⟩
    · exact heq
    · rw [hwf.parent_of_mem hx, Option.some.injEq] at hq
      exact absurd (hq ▸ hqy) (hwf.not_below_of_parent (hwf.parent_of_mem hy))
  rcases hma.total hmb with hab | hba
  · exact key ha hb hab
  · exact (key hb ha hba).symm

/-- A child of a node elsewhere is elsewhere, or it is the node in question. -/
theorem not_below_of_child (hwf : d.WellFormed) (hc : c ∈ d.children m) (hm : ¬ d.Below m n)
    (hne : c ≠ n) : ¬ d.Below c n := by
  intro hcn
  rcases hcn.cases_parent with heq | ⟨q, hq, hqn⟩
  · exact hne heq
  · rw [hwf.parent_of_mem hc, Option.some.injEq] at hq
    exact hm (hq ▸ hqn)

/-! ### Counting live nodes -/

/-- There are at most as many live nodes as slots. -/
theorem length_le_size {l : List NodeId} (hnd : l.Nodup) (hl : ∀ n ∈ l, d.contains n = true) :
    l.length ≤ d.size := by
  -- The handles are different numbers below the number of slots.
  have hsub : l.map NodeId.index ⊆ List.range d.size := by
    intro i hi
    obtain ⟨n, hn, rfl⟩ := List.mem_map.mp hi
    exact List.mem_range.mpr (index_lt_of_contains (hl n hn))
  have hnd' : (l.map NodeId.index).Nodup := by
    refine hnd.map fun a b hab => ?_
    cases a
    cases b
    exact congrArg NodeId.mk hab
  simpa using (hnd'.subperm hsub).length_le

/-! ### Lineages -/

/-- Climbing from a node only meets what is above it. -/
theorem mem_climb {k : Nat} (h : m ∈ d.climb k n) : d.Below n m := by
  induction k generalizing n with
  | zero => simp [climb] at h
  | succ k ih =>
    rw [climb, List.mem_cons] at h
    rcases h with rfl | h
    · exact below_refl d m
    · cases hp : d.parent? n with
      | none => simp [hp] at h
      | some p =>
        rw [hp] at h
        exact (below_of_parent hp).trans (ih h)

/-- Climbing from a node meets nothing twice. -/
theorem nodup_climb (hwf : d.WellFormed) (k : Nat) (n : NodeId) : (d.climb k n).Nodup := by
  induction k generalizing n with
  | zero => simp [climb]
  | succ k ih =>
    rw [climb]
    cases hp : d.parent? n with
    | none => simp
    | some p =>
      refine List.nodup_cons.mpr ⟨fun hmem => ?_, ih p⟩
      exact hwf.not_below_of_parent hp (mem_climb hmem)

/-- A climb with steps to spare has come to its end. -/
theorem climb_succ_of_length_lt {k : Nat} (h : (d.climb k n).length < k) :
    d.climb (k + 1) n = d.climb k n := by
  induction k generalizing n with
  | zero => simp at h
  | succ k ih =>
    rw [climb, climb]
    cases hp : d.parent? n with
    | none => rfl
    | some p =>
      rw [climb, hp, List.length_cons] at h
      exact congrArg _ (ih (Nat.lt_of_succ_lt_succ h))

/-- The way up from a parent is shorter than the number of slots, since it misses the child. -/
theorem length_climb_parent_lt (hwf : d.WellFormed) (hp : d.parent? n = some p) (k : Nat) :
    (d.climb k p).length < d.size := by
  -- The node and what is above it are different live nodes.
  have hnd : (n :: d.climb k p).Nodup := by
    refine List.nodup_cons.mpr ⟨fun hmem => ?_, nodup_climb hwf k p⟩
    exact hwf.not_below_of_parent hp (mem_climb hmem)
  have hlive : ∀ m ∈ n :: d.climb k p, d.contains m = true := by
    intro m hm
    rcases List.mem_cons.mp hm with rfl | hm
    · exact contains_of_parent? hp
    · exact (mem_climb hm).contains hwf (hwf.contains_parent hp)
  exact length_le_size hnd hlive

/-- A lineage goes on with the lineage of the parent. -/
theorem lineage_eq (hwf : d.WellFormed) (n : NodeId) :
    d.lineage n = n :: ((d.parent? n).map d.lineage).getD [] := by
  rw [lineage, climb]
  cases hp : d.parent? n with
  | none => rfl
  | some p =>
    have hlt := length_climb_parent_lt hwf hp d.size
    simp [lineage, climb_succ_of_length_lt hlt]

/-- The lineage of a node is all that is above it, together with the node. -/
theorem mem_lineage_iff (hwf : d.WellFormed) : m ∈ d.lineage n ↔ d.Below n m := by
  refine ⟨mem_climb, fun h => ?_⟩
  induction h using ReflTransGen.head_induction_on with
  | refl => rw [lineage_eq hwf]; exact List.mem_cons_self
  | head hp _ ih =>
    rw [lineage_eq hwf, show d.parent? _ = _ from hp]
    exact List.mem_cons_of_mem _ ih

/-- A node is connected if the root is above it. -/
theorem isConnected_iff (hwf : d.WellFormed) : d.isConnected n = true ↔ d.Below n root := by
  rw [isConnected, List.contains_iff_mem, mem_lineage_iff hwf]

/-- Ancestors are found by following one or more parent links. -/
theorem isAncestor_iff (hwf : d.WellFormed) :
    d.isAncestor p n = true ↔ TransGen d.IsParent n p := by
  rw [isAncestor, List.contains_iff_mem, lineage_eq hwf, List.tail_cons, TransGen.head'_iff]
  cases hp : d.parent? n with
  | none =>
    simp only [Option.map_none, Option.getD_none, List.not_mem_nil, false_iff]
    rintro ⟨q, hq, -⟩
    rw [IsParent, hp] at hq
    cases hq
  | some q =>
    simp only [Option.map_some, Option.getD_some, mem_lineage_iff hwf]
    refine ⟨fun h => ⟨q, hp, h⟩, ?_⟩
    rintro ⟨q', hq', h⟩
    rwa [isParent_rightUnique d hp hq']

/-- An ancestor is any other node that the node is below. -/
theorem isAncestor_iff_below (hwf : d.WellFormed) :
    d.isAncestor p n = true ↔ d.Below n p ∧ n ≠ p := by
  rw [isAncestor_iff hwf]
  constructor
  · intro h
    refine ⟨h.to_reflTransGen, ?_⟩
    rintro rfl
    exact hwf.acyclic n h
  · rintro ⟨h, hne⟩
    rcases h.cases_parent with heq | ⟨q, hq, hqp⟩
    · exact absurd heq hne
    · exact TransGen.head' hq hqp

/-- No live node lies deeper than there are slots. -/
theorem length_lineage_le (hwf : d.WellFormed) (hn : d.contains n = true) :
    (d.lineage n).length ≤ d.size := by
  refine length_le_size (nodup_climb hwf _ n) fun m hm => ?_
  exact (mem_climb hm).contains hwf hn

/-- A child is one level deeper than its parent. -/
theorem length_lineage_child (hwf : d.WellFormed) (hc : c ∈ d.children n) :
    (d.lineage c).length = (d.lineage n).length + 1 := by
  rw [lineage_eq hwf, hwf.parent_of_mem hc]
  rfl

/-- A path of parent links that a second document has as well. -/
theorem Below.of_parents {a : NodeId} (h : d.Below n a)
    (hsame : ∀ m, d.Below n m → d.Below m a → m ≠ a → d'.parent? m = d.parent? m) :
    d'.Below n a := by
  induction h using ReflTransGen.head_induction_on with
  | refl => exact below_refl d' a
  | @head n p hp hpa ih =>
    by_cases hna : n = a
    · exact hna ▸ below_refl d' n
    · have hn : d'.parent? n = some p :=
        (hsame n (below_refl d n) ((below_of_parent hp).trans hpa) hna).trans hp
      refine (below_of_parent hn).trans (ih fun m hm => ?_)
      exact hsame m ((below_of_parent hp).trans hm)

end AmpMarkup.Document
