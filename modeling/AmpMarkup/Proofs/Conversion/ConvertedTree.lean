import AmpMarkup.Proofs.Conversion.BottomUp

namespace AmpMarkup.Conversion

/-!
# What becomes of each node

The conversion of a tree forgets which node of the document a tree belongs to. Here it is a
recursion over the nodes, so that what is true of the converted tree can be said of the nodes that
it is made of.

* `Policy.converted policy d x` — the trees that the node `x` becomes; `converted_eq`.
* `filterMap_converted` — what is read off the sources among the children of a node stays.
-/

variable {policy : Policy} {d : Document} {x : NodeId}

/-- Whether a node is to be converted depends on its kind and on what is above it. -/
theorem isConvertible_eq (d : Document) (x : NodeId) :
    isConvertible d x =
      (((d.kind? x).getD .document).isNamed audioTag && !d.isInFallbackIsland x) := by
  rw [isConvertible, Document.isElementNamed_eq]

/-- The trees that `x` becomes. -/
def Policy.converted (policy : Policy) (d : Document) (x : NodeId) : List Tree :=
  policy.convertTree (d.isInFallbackIsland x) (d.tree x)

/-- The recursion of the conversion, on what is listed as children. -/
theorem converted_eq (policy : Policy) (h : d.WellFormed) (x : NodeId) :
    policy.converted d x =
      if isConvertible d x then
        policy.replaceTree ((d.kind? x).getD .document)
          ((d.children x).flatMap (policy.converted d))
      else [.node ((d.kind? x).getD .document) ((d.children x).flatMap (policy.converted d))] := by
  have hchildren : policy.convertTrees (((d.kind? x).getD .document).isNamed fallbackTag)
      ((d.children x).map d.tree) = (d.children x).flatMap (policy.converted d) := by
    rw [convertTrees_eq, List.flatMap_map]
    refine List.flatMap_congr fun c hc => ?_
    rw [Policy.converted, isInFallbackIsland_of_mem h hc, Document.isElementNamed_eq]
  rw [Policy.converted, Document.tree_eq h, Policy.convertTree, hchildren, isConvertible_eq]

/-- An audio element is no source. -/
theorem sourceUrl?_of_isConvertible (hx : isConvertible d x = true) :
    sourceUrl? ((d.kind? x).getD .document) = none := by
  rw [isConvertible_eq, Bool.and_eq_true] at hx
  exact sourceUrl?_eq_none (isNamed_eq_false hx.1 (Text.fold_ne (by decide)))

/-- Nor is what takes its place. -/
theorem sourceUrl?_of_mem_replaceTree {k : NodeKind} {ts : List Tree} {t : Tree}
    (ht : t ∈ policy.replaceTree k ts) : sourceUrl? t.kind = none := by
  obtain ⟨a, ha⟩ := kind_of_mem_replaceTree ht
  rw [ha]
  exact sourceUrl?_eq_none (isNamed_eq_false (isNamed_ofElement _ a) (Text.fold_ne (by decide)))

/-- What is read off sources is the same before and after. -/
theorem filterMap_converted_eq (policy : Policy) (h : d.WellFormed) {α : Type}
    {f : NodeKind → Option α} (hf : ∀ k, sourceUrl? k = none → f k = none) (x : NodeId) :
    (policy.converted d x).filterMap (fun t => f t.kind) = ((d.kind? x).bind f).toList := by
  have hkind : (d.kind? x).bind f = f ((d.kind? x).getD .document) := by
    cases d.kind? x with
    | none => exact (hf .document rfl).symm
    | some k => rfl
  rw [converted_eq policy h, hkind]
  split
  · rename_i hx
    rw [hf _ (sourceUrl?_of_isConvertible hx), Option.toList_none, List.filterMap_eq_nil_iff]
    exact fun t ht => hf _ (sourceUrl?_of_mem_replaceTree ht)
  · cases hk : f ((d.kind? x).getD .document) <;> simp [Tree.kind, hk]

/-- The children are the same sources before and after their own conversion. -/
theorem filterMap_converted (policy : Policy) (h : d.WellFormed) {α : Type}
    {f : NodeKind → Option α} (hf : ∀ k, sourceUrl? k = none → f k = none) (x : NodeId) :
    ((d.children x).flatMap (policy.converted d)).filterMap (fun t => f t.kind) =
      (d.children x).filterMap fun c => (d.kind? c).bind f := by
  rw [List.filterMap_flatMap, List.filterMap_eq_flatMap_toList]
  exact List.flatMap_congr fun c _ => filterMap_converted_eq policy h hf c

/-- The sources that can be used are the same before and after the children have been converted. -/
theorem hasUsableSource_converted (policy : Policy) (h : d.WellFormed) (x : NodeId) :
    policy.hasUsableSource d x =
      ((policy.filter audioRules (((d.kind? x).getD .document).attributes?.getD .empty)).contains
          "src" ||
        ((d.children x).flatMap (policy.converted d)).any policy.isUsableSource) := by
  have hattributes : d.attributes? x = ((d.kind? x).getD .document).attributes? := by
    rw [Document.attributes?]
    cases d.kind? x <;> rfl
  have husable : policy.isUsableSource = fun t => (policy.usableUrl? t.kind).isSome :=
    funext (isUsableSource_eq policy)
  rw [hasUsableSource_eq_filterMap, hattributes, husable, any_isSome_eq,
    filterMap_converted policy h fun k hk => usableUrl?_eq_none hk]

/-- No child is dropped whose original is kept. -/
theorem sourceIssue?_converted (h : d.WellFormed)
    (hchildren : ((d.children x).filterMap fun c => (d.kind? c).bind policy.sourceIssue?) = []) :
    ∀ t ∈ (d.children x).flatMap (policy.converted d), policy.sourceIssue? t.kind = none := by
  rw [← filterMap_converted policy h fun k hk => sourceIssue?_eq_none hk] at hchildren
  exact List.filterMap_eq_nil_iff.mp hchildren

end AmpMarkup.Conversion
