import AmpMarkup.Proofs.Conversion.LinkInvariant
import AmpMarkup.Proofs.Conversion.Visits

namespace AmpMarkup

open Document (root WellFormed SameAt)

/-!
# The conversion as a recursion over the tree

The document is converted by visits to one element after the other. On the way it is on its way to
one tree: what the root is still to become if the elements that are left are converted from the
bottom to the top. A visit does not change that tree.

* `Policy.pending d todo x` — the trees that `x` is still to become.
* `pending_of_apart` — what has nothing to be converted below it has its tree already.
* `Converted.pending_eq`, `tree_visits` — one visit, and all of them.
* `pending_eq_convertTree` — before the first visit it is the conversion of the tree.
* `reachable_tree_converted` — hence the converted document shows the converted tree.
-/

variable {d d' : Document} {n p x : NodeId} {R ns todo : List NodeId}

namespace Conversion

variable {policy : Policy} {report : Report}

/-! ### What is still to come -/

/-- The trees that `x` is still to become if the elements `todo` are still to be converted. -/
def Policy.pending (policy : Policy) (d : Document) (todo : List NodeId) : NodeId → List Tree :=
  d.fold fun x below =>
    if x ∈ todo ∧ d.isInFallbackIsland x = false then
      policy.replaceTree ((d.kind? x).getD .document) below.flatten
    else [.node ((d.kind? x).getD .document) below.flatten]

/-- The recursion of what is still to come, on what is listed as children. -/
theorem pending_eq (h : d.WellFormed) (x : NodeId) :
    policy.pending d todo x =
      if x ∈ todo ∧ d.isInFallbackIsland x = false then
        policy.replaceTree ((d.kind? x).getD .document)
          ((d.children x).flatMap (policy.pending d todo))
      else [.node ((d.kind? x).getD .document)
        ((d.children x).flatMap (policy.pending d todo))] := by
  rw [Policy.pending, Document.fold_eq h, List.flatMap_def]

/-- What has no element to be converted below it has its tree already. -/
theorem pending_of_apart (h : d.WellFormed) (hx : ∀ m ∈ todo, ¬ d.Below m x) :
    policy.pending d todo x = [d.tree x] := by
  induction x using h.induction_down with
  | _ x ih =>
    have hchildren : (d.children x).flatMap (policy.pending d todo) =
        (d.children x).map d.tree := by
      rw [List.map_eq_flatMap]
      refine List.flatMap_congr fun c hc => ih c hc fun m hm hb => ?_
      exact hx m hm (Document.below_of_mem_children h hc hb)
    rw [pending_eq h, hchildren, Document.tree_eq h, if_neg]
    exact fun hmem => hx x hmem.1 (Document.below_refl d x)

/-- An element in an island is not waited for. -/
theorem pending_cons_of_island (h : d.WellFormed) (hisland : d.isInFallbackIsland n = true)
    (x : NodeId) : policy.pending d (n :: ns) x = policy.pending d ns x := by
  induction x using h.induction_down with
  | _ x ih =>
    rw [pending_eq h, pending_eq h, List.flatMap_congr ih]
    have hiff : (x ∈ n :: ns ∧ d.isInFallbackIsland x = false) ↔
        (x ∈ ns ∧ d.isInFallbackIsland x = false) := by
      refine and_congr_left fun hx => ?_
      rw [List.mem_cons, or_iff_right]
      rintro rfl
      rw [hisland] at hx
      exact Bool.noConfusion hx
    simp only [hiff]

/-! ### One visit -/

/-- The children of an element to be visited have their trees already. -/
theorem pending_child (h : d.WellFormed) (hv : Visitable d (n :: ns)) {c : NodeId}
    (hc : c ∈ d.children n) : policy.pending d (n :: ns) c = [d.tree c] :=
  pending_of_apart h fun _ hm => hv.not_below_child h hc hm

namespace Converted

/-- What takes the place of a converted element is what the element was to become. -/
theorem pending_replaced (h : Converted policy d d' n p R) (hwf : d.WellFormed)
    (hv : Visitable d (n :: ns)) (hisland : d.isInFallbackIsland n = false) :
    R.flatMap (policy.pending d' ns) = policy.pending d (n :: ns) n := by
  have hR : R.flatMap (policy.pending d' ns) = R.map d'.tree := by
    rw [List.map_eq_flatMap]
    refine List.flatMap_congr fun r hr => pending_of_apart h.wellFormed fun m hm hmr => ?_
    -- An old node below a new one would have been there before the new one.
    have hlive := hv.tail.contains hm
    have hold := (h.below_iff_outside hwf hlive (hv.not_below hm)).mp hmr
    have hlt := Document.index_lt_of_contains (hold.contains hwf hlive)
    exact absurd (h.fresh r hr) (Nat.not_le.mpr hlt)
  have hchildren : (d.children n).flatMap (policy.pending d (n :: ns)) =
      (d.children n).map d.tree := by
    rw [List.map_eq_flatMap]
    exact List.flatMap_congr fun c hc => pending_child hwf hv hc
  rw [hR, h.trees, pending_eq hwf, if_pos ⟨List.mem_cons_self, hisland⟩, hchildren]

/-- A visit changes nothing about what any other node is still to become. -/
theorem pending_eq (h : Converted policy d d' n p R) (hwf : d.WellFormed)
    (hv : Visitable d (n :: ns)) (hisland : d.isInFallbackIsland n = false)
    (hx : d.contains x = true) (hxn : ¬ d.Below x n) :
    policy.pending d' ns x = policy.pending d (n :: ns) x := by
  induction x using hwf.induction_down with
  | _ x ih =>
    have hne : x ≠ n := fun heq => hxn (heq ▸ Document.below_refl d x)
    -- Of the children of `x` only `n` itself can be in the tree of `n`.
    have hchildren : (substitute n R (d.children x)).flatMap (policy.pending d' ns) =
        (d.children x).flatMap (policy.pending d (n :: ns)) := by
      refine flatMap_substitute (h.pending_replaced hwf hv hisland) fun c hc hcn => ?_
      exact ih c hc (hwf.contains_child hc) (Document.not_below_of_child hwf hc hxn hcn)
    rw [Conversion.pending_eq h.wellFormed, Conversion.pending_eq hwf,
      h.children_outside hwf h.parent hx hxn, hchildren, h.kind_outside hx hxn,
      h.isInFallbackIsland_eq hwf hx hxn]
    simp only [List.mem_cons, hne, false_or]

end Converted

/-- The root is below no audio element. -/
theorem Visitable.not_below_root (hv : Visitable d (n :: ns)) (h : d.WellFormed) :
    ¬ d.Below root n := by
  intro hb
  have hroot := hb.eq_of_detached h.parent_root
  have hnamed := hv.named n List.mem_cons_self
  rw [← hroot, Document.isElementNamed, h.kind_root] at hnamed
  exact Bool.noConfusion hnamed

/-! ### All visits -/

/-- After all visits the root shows the tree that it was to become before the first. -/
theorem tree_visits (h : d.WellFormed) (hv : Visitable d ns) :
    [(ns.foldl policy.convertOne (report, d)).2.tree root] = policy.pending d ns root := by
  induction ns generalizing d report with
  | nil => exact (pending_of_apart h fun m hm => absurd hm List.not_mem_nil).symm
  | cons n rest ih =>
    obtain ⟨outcome, d₁, hstep, -, hvisited⟩ := convertOne_eq policy report h hv
    rw [List.foldl_cons, hstep, ih (hvisited.wellFormed h) (hvisited.visitable h hv)]
    cases hvisited with
    | skipped hisland => exact (pending_cons_of_island h hisland root).symm
    | converted hisland hconv =>
      exact hconv.pending_eq h hv hisland h.contains_root (hv.not_below_root h)

/-- Trees are converted one by one. -/
theorem convertTrees_eq (policy : Policy) (inIsland : Bool) (ts : List Tree) :
    policy.convertTrees inIsland ts = ts.flatMap (policy.convertTree inIsland) := by
  induction ts with
  | nil => rw [Policy.convertTrees, List.flatMap_nil]
  | cons t rest ih => rw [Policy.convertTrees, List.flatMap_cons, ih]

/-- A child is in an island if its parent makes one. -/
theorem isInFallbackIsland_of_mem (h : d.WellFormed) {c : NodeId} (hc : c ∈ d.children x) :
    d.isInFallbackIsland c = d.isElementNamed x fallbackTag := by
  rw [Document.isInFallbackIsland, h.parent_of_mem hc, Option.any_some]

/-- Before the first visit every connected node is to become the conversion of its tree. -/
theorem pending_eq_convertTree (h : d.WellFormed) (hx : d.Below x root) :
    policy.pending d (d.elementsNamed audioTag).reverse x =
      policy.convertTree (d.isInFallbackIsland x) (d.tree x) := by
  induction x using h.induction_down with
  | _ x ih =>
    have hcon : d.contains x = true := hx.contains_lower h.contains_root
    obtain ⟨k, hk⟩ := Document.exists_kind? hcon
    have hchildren : (d.children x).flatMap
          (policy.pending d (d.elementsNamed audioTag).reverse) =
        policy.convertTrees (k.isNamed fallbackTag) ((d.children x).map d.tree) := by
      rw [convertTrees_eq, List.flatMap_map]
      refine List.flatMap_congr fun c hc => ?_
      have hisland : d.isInFallbackIsland c = k.isNamed fallbackTag := by
        rw [isInFallbackIsland_of_mem h hc, Document.isElementNamed_eq, hk, Option.getD_some]
      rw [ih c hc ((Document.below_of_parent (h.parent_of_mem hc)).trans hx), hisland]
    -- The root is no element, so every connected audio element is to be visited.
    have hmem : x ∈ (d.elementsNamed audioTag).reverse ↔ k.isNamed audioTag = true := by
      rw [List.mem_reverse, Document.elementsNamed, List.mem_filter,
        Document.mem_descendants_iff h, Document.isElementNamed_eq, hk, Option.getD_some]
      refine and_iff_right_of_imp fun hnamed => ⟨hx, ?_⟩
      rintro rfl
      rw [h.kind_root, Option.some.injEq] at hk
      rw [← hk] at hnamed
      exact Bool.noConfusion hnamed
    rw [pending_eq h, hchildren, hk, Option.getD_some, Document.tree_kind h hk, Policy.convertTree]
    simp only [hmem, Bool.and_eq_true, Bool.not_eq_true']

/-- A conversion shows the converted tree. -/
theorem tree_convertAudio (h : d.WellFormed) (policy : Policy) :
    [(policy.convertAudio d).2.tree root] = policy.convertTree false (d.tree root) := by
  have hroot : d.isInFallbackIsland root = false := by
    rw [Document.isInFallbackIsland, h.parent_root, Option.any_none]
  rw [Policy.convertAudio, tree_visits h (visitable_elementsNamed h),
    pending_eq_convertTree h (Document.below_refl d root), hroot]

/-- Whatever the history of a document, its conversion shows the tree that the recursion from the
    bottom to the top makes of the tree before. -/
theorem reachable_tree_converted (h : Reachable d) (policy : Policy) :
    [(policy.convertAudio d).2.tree root] = policy.convertTree false (d.tree root) :=
  tree_convertAudio h.wellFormed policy

/-- A conversion of an element inside another one, with sources of both kinds. -/
theorem reachable_tree_converted_nested :
    let d := Markup.readMarkup
      "<audio src=/a><source src=http://a.b/c><audio src=https://a.b/d><p>x</p></audio></audio>"
    let policy : Policy := {}
    Reachable d ∧ (policy.convertAudio d).1.isModified = true ∧
    [(policy.convertAudio d).2.tree root] = policy.convertTree false (d.tree root) :=
  have h := Reachable.read _
  ⟨h, by decide +kernel, reachable_tree_converted h _⟩

end Conversion

end AmpMarkup
