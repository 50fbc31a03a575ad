import AmpMarkup.Conversion.Growth
import AmpMarkup.Proofs.Conversion.ConvertedTree
import AmpMarkup.Proofs.Conversion.Verdicts
import AmpMarkup.Proofs.Markup.RoundTrip
import Mathlib.Algebra.BigOperators.Ring.List
import Mathlib.Algebra.Order.BigOperators.Group.List
import Mathlib.Tactic.Ring

namespace AmpMarkup

open Document (root)

/-!
# How much a conversion adds

A conversion copies the children of each element that it replaces, and the copies of what stands
inside are copied again. So a node is multiplied once for every element around it, and the number
of nodes is exponential in how deep the elements are nested, but in nothing else.

* `Document.connected_perm` — the connected nodes are counted by the tree of the root.
* `weighted_step`, `sizeAll_converted_le`, `sizeAll_converted_eq` — a subtree becomes what its nodes
  become one by one.
* `reachable_growth_by_nesting` — what that comes to for a whole document.
* `exists_growth_beyond`, `nested_audio_exceeds_tenfold` — no constant factor is enough.
-/

variable {d : Document} {n x : NodeId}

/-! ### Connected nodes -/

/-- The connected nodes are those of the subtree of the root. -/
theorem Document.connected_perm (h : d.WellFormed) : d.connected.Perm (d.subtree root) := by
  have hnodup : d.connected.Nodup := by
    refine ((List.nodup_range).map fun a b hab => ?_).filter _
    exact congrArg NodeId.index hab
  refine (List.perm_ext_iff_of_nodup hnodup (Document.nodup_subtree h root)).mpr fun m => ?_
  rw [Document.connected, List.mem_filter, Document.isConnected_iff h, Document.mem_subtree_iff h,
    and_iff_right_of_imp]
  intro hm
  have hlt := Document.index_lt_of_contains (hm.contains_lower h.contains_root)
  exact List.mem_map.mpr ⟨m.index, List.mem_range.mpr hlt, rfl⟩

namespace Conversion

variable {policy : Policy}

/-! ### Sizes of converted trees -/

/-- A mark takes no room. -/
theorem sizeAll_markFirst (ts : List Tree) : Tree.sizeAll (markFirst ts) = Tree.sizeAll ts := by
  induction ts with
  | nil => rfl
  | cons t rest ih =>
    rw [markFirst]
    split
    · simp [Tree.sizeAll]
    · simp [Tree.sizeAll, ih]

/-- A kept child is as large as before. -/
theorem sizeAll_filterMap_keepTree?_le (policy : Policy) (ts : List Tree) :
    Tree.sizeAll (ts.filterMap policy.keepTree?) ≤ Tree.sizeAll ts := by
  induction ts with
  | nil => exact Nat.le_refl _
  | cons t rest ih =>
    rw [List.filterMap_cons, keepTree?_eq]
    split_ifs
    · simpa [Tree.sizeAll] using ih
    · simp only [Tree.sizeAll]
      omega

/-- Without rejected sources the children that are kept are as large as all of them. -/
theorem sizeAll_filterMap_keepTree? {ts : List Tree}
    (h : ∀ t ∈ ts, policy.sourceIssue? t.kind = none) :
    Tree.sizeAll (ts.filterMap policy.keepTree?) = Tree.sizeAll ts := by
  induction ts with
  | nil => rfl
  | cons t rest ih =>
    rw [List.filterMap_cons, keepTree?_eq, if_pos (h t List.mem_cons_self)]
    simp [Tree.sizeAll, ih fun u hu => h u (List.mem_cons_of_mem _ hu)]

/-- The size of what an audio element becomes: nothing, or three nodes and its children twice. -/
theorem sizeAll_replaceTree (policy : Policy) (k : NodeKind) (ts : List Tree) :
    Tree.sizeAll (policy.replaceTree k ts) =
      if (policy.filter audioRules (k.attributes?.getD .empty)).contains "src" ||
          ts.any policy.isUsableSource then
        3 + 2 * Tree.sizeAll (ts.filterMap policy.keepTree?)
      else 0 := by
  rw [Policy.replaceTree]
  dsimp only
  split
  · rw [Tree.sizeAll_singleton, Tree.size, Tree.sizeAll_append, Tree.sizeAll_singleton, Tree.size,
      Tree.sizeAll_singleton, Tree.size, sizeAll_markFirst]
    omega
  · rfl

/-- An audio element becomes three nodes and two copies of the children that are kept. -/
theorem sizeAll_replaceTree_le (policy : Policy) (k : NodeKind) (ts : List Tree) :
    Tree.sizeAll (policy.replaceTree k ts) ≤ 3 + 2 * Tree.sizeAll ts := by
  have hkept := sizeAll_filterMap_keepTree?_le policy ts
  rw [sizeAll_replaceTree]
  split <;> omega

/-! ### Counting -/

/-- Going down to a child, one more convertible element is above if the parent is one. -/
theorem convertibleAbove_of_mem (h : d.WellFormed) {c : NodeId} (hc : c ∈ d.children x) :
    convertibleAbove d c = convertibleAbove d x + if isConvertible d x then 1 else 0 := by
  have hlineage := Document.lineage_eq h x
  rw [convertibleAbove, Document.lineage_eq h c, h.parent_of_mem hc, List.tail_cons,
    Option.map_some, Option.getD_some, hlineage, List.countP_cons, convertibleAbove, hlineage,
    List.tail_cons]

/-- A sum over a subtree is made of the sums over the subtrees of the children. -/
theorem sum_subtree (h : d.WellFormed) (w : NodeId → Nat) (x : NodeId) :
    ((d.subtree x).map w).sum =
      w x + ((d.children x).map fun c => ((d.subtree c).map w).sum).sum := by
  rw [Document.subtree_eq h, List.map_cons, List.sum_cons]
  congr 1
  induction d.children x with
  | nil => rfl
  | cons c rest ih => rw [List.flatMap_cons, List.map_append, List.sum_append, ih, List.map_cons,
      List.sum_cons]

/-- One node and then its children, each weighed with the copies that are made of it. -/
theorem weighted_step (h : d.WellFormed) (s : NodeId → Nat) (x : NodeId) :
    (if isConvertible d x then 3 + 2 * ((d.children x).map s).sum
      else 1 + ((d.children x).map s).sum) * 2 ^ convertibleAbove d x =
      growth d x + ((d.children x).map fun c => s c * 2 ^ convertibleAbove d c).sum := by
  have hchildren : ((d.children x).map fun c => s c * 2 ^ convertibleAbove d c) =
      (d.children x).map fun c =>
        s c * 2 ^ (convertibleAbove d x + if isConvertible d x then 1 else 0) :=
    List.map_congr_left fun c hc => by rw [convertibleAbove_of_mem h hc]
  rw [hchildren, List.sum_map_mul_right, growth]
  split
  · rw [Nat.pow_succ]
    ring
  · rw [Nat.add_zero]
    ring

/-- A subtree becomes at most what its nodes become one by one. -/
theorem sizeAll_converted_le (policy : Policy) (h : d.WellFormed) (x : NodeId) :
    Tree.sizeAll (policy.converted d x) * 2 ^ convertibleAbove d x ≤
      ((d.subtree x).map (growth d)).sum := by
  induction x using h.induction_down with
  | _ x ih =>
    have hstep : Tree.sizeAll (policy.converted d x) ≤
        if isConvertible d x then
          3 + 2 * ((d.children x).map fun c => Tree.sizeAll (policy.converted d c)).sum
        else 1 + ((d.children x).map fun c => Tree.sizeAll (policy.converted d c)).sum := by
      rw [converted_eq policy h, ← Tree.sizeAll_flatMap]
      split
      · exact sizeAll_replaceTree_le policy _ _
      · rw [Tree.sizeAll_singleton, Tree.size]
    rw [sum_subtree h]
    calc Tree.sizeAll (policy.converted d x) * 2 ^ convertibleAbove d x
        ≤ _ := Nat.mul_le_mul_right _ hstep
      _ = growth d x + ((d.children x).map fun c =>
            Tree.sizeAll (policy.converted d c) * 2 ^ convertibleAbove d c).sum :=
          weighted_step h _ x
      _ ≤ _ := Nat.add_le_add_left (List.sum_le_sum ih) _

/-- Without an issue an audio element becomes exactly three nodes and two copies of its children. -/
theorem sizeAll_converted_of_issuesOf (h : d.WellFormed) (hx : isConvertible d x = true)
    (hissues : policy.issuesOf d x = []) :
    Tree.sizeAll (policy.converted d x) =
      3 + 2 * Tree.sizeAll ((d.children x).flatMap (policy.converted d)) := by
  have hskip : policy.verdict d x ≠ .skip := by
    rw [Ne, verdict_eq_skip_iff]
    simp_all [isConvertible]
  rw [Policy.issuesOf, if_neg hskip, List.append_eq_nil_iff] at hissues
  obtain ⟨hchildren, hremove⟩ := hissues
  have husable : policy.hasUsableSource d x = true := by
    by_contra hnot
    have hverdict : policy.verdict d x = .remove := by
      rw [Policy.verdict, if_neg fun hisland => hskip (verdict_eq_skip_iff.mpr hisland),
        if_neg hnot]
    simp [hverdict] at hremove
  rw [hasUsableSource_converted policy h] at husable
  rw [converted_eq policy h, if_pos hx, sizeAll_replaceTree, if_pos husable,
    sizeAll_filterMap_keepTree? (sourceIssue?_converted h hchildren)]

/-- A subtree without issues becomes exactly what its nodes become one by one. -/
theorem sizeAll_converted_eq (h : d.WellFormed) (x : NodeId)
    (hissues : ∀ m, d.Below m x → isConvertible d m = true → policy.issuesOf d m = []) :
    Tree.sizeAll (policy.converted d x) * 2 ^ convertibleAbove d x =
      ((d.subtree x).map (growth d)).sum := by
  induction x using h.induction_down with
  | _ x ih =>
    have hstep : Tree.sizeAll (policy.converted d x) =
        if isConvertible d x then
          3 + 2 * ((d.children x).map fun c => Tree.sizeAll (policy.converted d c)).sum
        else 1 + ((d.children x).map fun c => Tree.sizeAll (policy.converted d c)).sum := by
      rw [← Tree.sizeAll_flatMap]
      split
      · rename_i hx
        exact sizeAll_converted_of_issuesOf h hx (hissues x (Document.below_refl d x) hx)
      · rename_i hx
        rw [converted_eq policy h, if_neg hx, Tree.sizeAll_singleton, Tree.size]
    rw [sum_subtree h, hstep, weighted_step h]
    congr 2
    refine List.map_congr_left fun c hc => ih c hc fun m hm => ?_
    exact hissues m (Document.below_of_mem_children h hc hm)

/-! ### Whole documents -/

/-- The connected nodes are the nodes of the tree of the root. -/
theorem length_connected (h : d.WellFormed) : d.connected.length = (d.tree root).size := by
  rw [(Document.connected_perm h).length_eq, Document.size_tree h]

/-- After a conversion the connected nodes are those of what the root becomes. -/
theorem length_connected_convertAudio (h : d.WellFormed) (policy : Policy) :
    (policy.convertAudio d).2.connected.length = Tree.sizeAll (policy.converted d root) := by
  have hroot : d.isInFallbackIsland root = false := by
    rw [Document.isInFallbackIsland, h.parent_root, Option.any_none]
  rw [length_connected (wellFormed_convertAudio policy h), Policy.converted, hroot,
    ← tree_convertAudio h, Tree.sizeAll_singleton]

/-- Nothing is above the root. -/
theorem convertibleAbove_root (h : d.WellFormed) : convertibleAbove d root = 0 := by
  rw [convertibleAbove, Document.lineage_eq h, h.parent_root]
  rfl

/-- A report without issues has none for any connected element. -/
theorem issuesOf_of_report (h : d.WellFormed) (hissues : (policy.convertAudio d).1.issues = [])
    (hx : d.Below x root) (hconv : isConvertible d x = true) : policy.issuesOf d x = [] := by
  rw [issues_convertAudio h, List.flatMap_eq_nil_iff] at hissues
  rw [isConvertible, Bool.and_eq_true] at hconv
  refine hissues x (List.mem_reverse.mpr ?_)
  rw [Document.elementsNamed, List.mem_filter, Document.mem_descendants_iff h]
  refine ⟨⟨hx, ?_⟩, hconv.1⟩
  rintro rfl
  simp [Document.isElementNamed, h.kind_root, NodeKind.isNamed, NodeKind.tagName?] at hconv

/-- On a path with at most `k` convertible elements no node is turned into many. -/
theorem growth_le (h : d.WellFormed) {k : Nat}
    (hk : (d.lineage x).countP (isConvertible d) ≤ k) : 2 * growth d x ≤ 3 * 2 ^ k := by
  have hcount : convertibleAbove d x + (if isConvertible d x then 1 else 0) ≤ k := by
    rw [Document.lineage_eq h, List.countP_cons] at hk
    rwa [convertibleAbove, Document.lineage_eq h, List.tail_cons]
  have hpow := Nat.pow_le_pow_right (show 0 < 2 by omega) hcount
  rw [growth]
  split at hpow
  · rename_i hx
    rw [Nat.pow_succ] at hpow
    rw [if_pos hx]
    omega
  · rename_i hx
    rw [Nat.add_zero] at hpow
    rw [if_neg hx]
    omega

/-- A conversion turns a connected node into at most one node, or three for an audio element outside
    of islands, and twice as many for each such element above it; if nothing has to be reported it
    is exactly that many. So where no path from the root has more than `k` such elements the number
    of connected nodes grows at most by the factor `3 / 2 * 2 ^ k`. -/
theorem reachable_growth_by_nesting (h : Reachable d) (policy : Policy) :
    (policy.convertAudio d).2.connected.length ≤ (d.connected.map (growth d)).sum ∧
    ((policy.convertAudio d).1.issues = [] →
      (policy.convertAudio d).2.connected.length = (d.connected.map (growth d)).sum) ∧
    ∀ k, (∀ x ∈ d.connected, (d.lineage x).countP (isConvertible d) ≤ k) →
      2 * (policy.convertAudio d).2.connected.length ≤ 3 * 2 ^ k * d.connected.length := by
  have hwf := h.wellFormed
  have hsum : (d.connected.map (growth d)).sum = ((d.subtree root).map (growth d)).sum :=
    ((Document.connected_perm hwf).map _).sum_eq
  have hle : (policy.convertAudio d).2.connected.length ≤ (d.connected.map (growth d)).sum := by
    have hroot := sizeAll_converted_le policy hwf root
    rw [convertibleAbove_root hwf, Nat.pow_zero, Nat.mul_one] at hroot
    rwa [length_connected_convertAudio hwf, hsum]
  refine ⟨hle, fun hissues => ?_, fun k hk => ?_⟩
  · have hroot := sizeAll_converted_eq hwf root fun m hm hconv =>
      issuesOf_of_report hwf hissues hm hconv
    rw [convertibleAbove_root hwf, Nat.pow_zero, Nat.mul_one] at hroot
    rw [length_connected_convertAudio hwf, hsum, hroot]
  · calc 2 * (policy.convertAudio d).2.connected.length
        ≤ 2 * (d.connected.map (growth d)).sum := Nat.mul_le_mul_left 2 hle
      _ = (d.connected.map fun x => 2 * growth d x).sum := by rw [List.sum_map_mul_left]
      _ ≤ (d.connected.map fun _ => 3 * 2 ^ k).sum :=
          List.sum_le_sum fun x hx => growth_le hwf (hk x hx)
      _ = 3 * 2 ^ k * d.connected.length := by simp [Nat.mul_comm]

/-- Two audio elements inside each other, with a paragraph in the inner one. -/
theorem reachable_growth_by_nesting_of_two :
    let d := Markup.readMarkup "<audio src=//a.b/c><audio src=//a.b/d><p>x</p></audio></audio>"
    let policy : Policy := {}
    Reachable d ∧ (policy.convertAudio d).1.issues = [] ∧ d.connected.length = 5 ∧
    (∀ x ∈ d.connected, (d.lineage x).countP (isConvertible d) ≤ 2) ∧
    (policy.convertAudio d).2.connected.length = 18 ∧
    (policy.convertAudio d).2.connected.length = (d.connected.map (growth d)).sum ∧
    2 * (policy.convertAudio d).2.connected.length ≤ 3 * 2 ^ 2 * d.connected.length := by
  intro d policy
  have h : Reachable d := .read _
  have hfacts : (∀ x ∈ d.connected, (d.lineage x).countP (isConvertible d) ≤ 2) ∧
      d.connected.length = 5 := by decide +kernel
  obtain ⟨hnested, hbefore⟩ := hfacts
  have hissues : (policy.convertAudio d).1.issues = [] := by
    rw [issues_convertAudio h.wellFormed]
    decide +kernel
  have hafter : (policy.convertAudio d).2.connected.length = 18 := by
    rw [length_connected_convertAudio h.wellFormed]
    decide +kernel
  obtain ⟨-, heq, hfactor⟩ := reachable_growth_by_nesting h policy
  exact ⟨h, hissues, hbefore, hnested, hafter, heq hissues, hfactor 2 hnested⟩

/-! ### Nesting without bound -/

/-- `k` audio elements inside one another. -/
def nestedAudio : Nat → List Tree
  | 0 => []
  | k + 1 => [.node (.element audioTag (.ofList [("src", "//a")])) (nestedAudio k)]

/-- The nested elements are read back from their markup. -/
theorem allReadable_nestedAudio (k : Nat) : Tree.AllReadable false (nestedAudio k) := by
  induction k with
  | zero => trivial
  | succ k ih =>
    refine ⟨⟨by decide, by decide +kernel, ?_, ?_⟩, trivial⟩
    · exact fun hvoid => absurd hvoid (by decide)
    · rwa [show Markup.isRawText audioTag = false by decide]

/-- There are no texts in them to merge. -/
theorem mergeAll_nestedAudio (k : Nat) : Tree.mergeAll (nestedAudio k) = nestedAudio k := by
  induction k with
  | zero => rw [nestedAudio, Tree.mergeAll]
  | succ k ih => rw [nestedAudio, Tree.mergeAll_of_not_text rfl, Tree.merge, ih, Tree.mergeAll]

/-- Each of them is one node. -/
theorem sizeAll_nestedAudio (k : Nat) : Tree.sizeAll (nestedAudio k) = k := by
  induction k with
  | zero => rfl
  | succ k ih => rw [nestedAudio, Tree.sizeAll_singleton, Tree.size, ih, Nat.add_comm]

/-- The outermost element takes its turn after the ones inside. -/
theorem convertTrees_nestedAudio (policy : Policy) (k : Nat) :
    policy.convertTrees false (nestedAudio (k + 1)) =
      policy.replaceTree (.element audioTag (.ofList [("src", "//a")]))
        (policy.convertTrees false (nestedAudio k)) := by
  have haudio : (NodeKind.element audioTag (.ofList [("src", "//a")])).isNamed audioTag = true := by
    simp [NodeKind.isNamed, NodeKind.tagName?, Text.sameFold_iff]
  have hisland : (NodeKind.element audioTag (.ofList [("src", "//a")])).isNamed fallbackTag =
      false := isNamed_eq_false haudio (Text.fold_ne (by decide))
  rw [nestedAudio, convertTrees_eq, List.flatMap_singleton, Policy.convertTree, hisland, haudio,
    Bool.not_false, Bool.and_self, if_pos rfl]

/-- With one more element around them the elements become twice as many nodes and three more. -/
theorem sizeAll_convertTrees_nestedAudio (k : Nat) :
    Tree.sizeAll (Policy.convertTrees {} false (nestedAudio k)) + 3 = 3 * 2 ^ k := by
  induction k with
  | zero => rfl
  | succ k ih =>
    have hsrc : (Policy.filter {} audioRules (.ofList [("src", "//a")])).contains "src" = true := by
      decide +kernel
    -- What stands inside are replacements, of which none is dropped.
    have hkept : ∀ t ∈ Policy.convertTrees {} false (nestedAudio k),
        Policy.sourceIssue? {} t.kind = none := by
      intro t ht
      cases k with
      | zero => exact absurd ht (by simp [nestedAudio, Policy.convertTrees])
      | succ k =>
        rw [convertTrees_nestedAudio] at ht
        exact sourceIssue?_eq_none (sourceUrl?_of_mem_replaceTree ht)
    rw [convertTrees_nestedAudio, sizeAll_replaceTree, NodeKind.attributes?, Option.getD_some, hsrc,
      Bool.true_or, if_pos rfl, sizeAll_filterMap_keepTree? hkept, Nat.pow_succ]
    omega

/-- No factor bounds the growth of all documents. -/
theorem exists_growth_beyond (factor : Nat) :
    ∃ d : Document, Reachable d ∧
      factor * d.connected.length < (Policy.convertAudio {} d).2.connected.length := by
  -- So many elements that they outgrow their number times the factor.
  let k := 2 * factor
  let d := Markup.readMarkup (Tree.listToHtml false (nestedAudio k))
  have h : Reachable d := .read _
  have htree : d.tree root = .node .document (nestedAudio k) := by
    rw [Tree.tree_readMarkup (allReadable_nestedAudio k), mergeAll_nestedAudio]
  have hbefore : d.connected.length = 1 + k := by
    rw [length_connected h.wellFormed, htree, Tree.size, sizeAll_nestedAudio]
  have hafter : (Policy.convertAudio {} d).2.connected.length + 2 = 3 * 2 ^ k := by
    have hsize := sizeAll_convertTrees_nestedAudio k
    rw [length_connected (wellFormed_convertAudio _ h.wellFormed), ← Tree.sizeAll_singleton,
      tree_convertAudio h.wellFormed, htree, Policy.convertTree,
      show NodeKind.document.isNamed fallbackTag = false from rfl,
      show NodeKind.document.isNamed audioTag = false from rfl, Bool.false_and,
      if_neg Bool.false_ne_true, Tree.sizeAll_singleton, Tree.size]
    omega
  refine ⟨d, h, ?_⟩
  have hpow : (factor + 1) * (factor + 1) ≤ 2 ^ k := by
    rw [show k = factor + factor by omega, Nat.pow_add]
    exact Nat.mul_le_mul Nat.lt_two_pow_self Nat.lt_two_pow_self
  have hproduct : factor * (1 + k) + 2 < 3 * ((factor + 1) * (factor + 1)) := by
    show factor * (1 + 2 * factor) + 2 < _
    nlinarith
  rw [hbefore]
  linarith

/-- Five audio elements inside one another: six connected nodes become ninety-four. -/
theorem nested_audio_exceeds_tenfold :
    let d := Markup.readMarkup
      "<audio src=//a><audio src=//a><audio src=//a><audio src=//a><audio src=//a>"
    let policy : Policy := {}
    Reachable d ∧ d.connected.length = 6 ∧ (policy.convertAudio d).2.connected.length = 94 ∧
    ¬ (policy.convertAudio d).2.connected.length ≤ 10 * d.connected.length := by
  intro d policy
  have h : Reachable d := .read _
  have hbefore : d.connected.length = 6 := by decide +kernel
  have hafter : (policy.convertAudio d).2.connected.length = 94 := by
    rw [length_connected_convertAudio h.wellFormed]
    decide +kernel
  exact ⟨h, hbefore, hafter, by omega⟩

end Conversion

end AmpMarkup
