import AmpMarkup.Proofs.Conversion.Filter
import AmpMarkup.Proofs.Conversion.LastSteps

namespace AmpMarkup

open Document (root WellFormed Loose SameAt)

/-!
# Converting one audio element

The conversion of a connected audio element outside a fallback island never fails: it puts the
replacement, or nothing, in the place of the element and leaves everything alone that is neither
below the element nor its parent.

* `Policy.gatheredFrom` — what there is to gather, as a function of the document; `Prepared`,
  `run_prepare` — the steps before the policy chooses between the two ways to end.
* `Substituted`, `Inside`, `run_convert` — the conversion as a whole: what it does elsewhere, and
  what becomes of the nodes below the element.
* `run_convert_island` — inside an island nothing happens.
-/

variable {d d' : Document} {m n p c f : NodeId} {cs R : List NodeId}

namespace Conversion

open Edit

/-! ### The first steps -/

/-- A bare copy of `n` has been made, and the children of `n` have been taken out. -/
structure SetAside (d d' : Document) (n p : NodeId) : Prop where
  wellFormed : d'.WellFormed
  size_eq : d'.size = d.size + 1
  same (m : NodeId) : m.index < d.size → m ≠ n → m ∉ d.children n → SameAt d d' m
  kind (m : NodeId) : m.index < d.size → d'.kind? m = d.kind? m
  parent : d'.parent? n = some p
  connected : d'.Below p root
  bare : d'.children n = []
  fallback : d'.Loose d.nextId
  kind_fallback : d'.kind? d.nextId = d.kind? n
  bare_fallback : d'.children d.nextId = []
  loose : ∀ c ∈ d.children n, d'.Loose c
  below (m : NodeId) : ∀ c ∈ d.children n, d'.Below m c ↔ d.Below m c
  children : ∀ c ∈ d.children n, d'.children c = d.children c
  tree : ∀ c ∈ d.children n, d'.tree c = d.tree c

/-- The document after the copy has been made and the children have been taken out. -/
theorem SetAside.of_childrenDetached {k : NodeKind} (h : d.WellFormed) (hk : d.kind? n = some k)
    (hp : d.parent? n = some p) (hroot : d.Below p root)
    (hd' : Document.ChildrenDetached (d.push k) d' n) : SetAside d d' n p := by
  have hlt : ∀ {m : NodeId}, d.contains m = true → m.index < d.size := Document.index_lt_of_contains
  have hch : ∀ m, (d.push k).children m = d.children m := fun m => Document.children_push k
  have hsame : ∀ m, m.index < d.size → m ≠ n → m ∉ d.children n → SameAt d d' m :=
    fun m hm hmn hmc => (Document.sameAt_push hm k).trans (hd'.same m hmn (by rwa [hch]))
  have hkind : ∀ m : NodeId, m.index < d.size → d'.kind? m = d.kind? m := fun m hm => by
    rw [hd'.kind, Document.kind?_push, if_neg (Document.ne_nextId_of_lt hm)]
  have hfallback : SameAt (d.push k) d' d.nextId := by
    refine hd'.same _ (Ne.symm (Document.ne_nextId_of_contains (Document.contains_of_kind? hk)))
      fun hmem => ?_
    rw [hch] at hmem
    exact Document.ne_nextId_of_contains (h.contains_child hmem) rfl
  -- Below a child no list has changed.
  have hchildren : ∀ c ∈ d.children n, ∀ m, d.Below m c → d'.children m = d.children m := by
    intro c hc m hm
    rw [hd'.children m, hch]
    rintro rfl
    exact h.not_below_of_parent (h.parent_of_mem hc) hm
  exact {
    wellFormed := hd'.wellFormed
    size_eq := by rw [hd'.size_eq, Document.size_push]
    same := hsame
    kind := hkind
    parent := by rw [hd'.parent_top, Document.parent?_push, hp]
    connected := by
      -- Neither `n` nor a child of it is above the parent of `n`.
      refine hroot.of_parents fun m hpm _ _ => ?_
      have hm : m.index < d.size := hlt (hpm.contains h (h.contains_parent hp))
      refine (hsame m hm ?_ fun hmc => ?_).parent?
      · rintro rfl
        exact h.not_below_of_parent hp hpm
      · exact h.not_below_of_parent hp
          (hpm.trans (Document.below_of_parent (h.parent_of_mem hmc)))
    bare := hd'.bare
    fallback := (Document.loose_nextId h k).of_sameAt hfallback
    kind_fallback := by rw [hfallback.kind?, Document.kind?_nextId_push, hk]
    bare_fallback := by rw [hfallback.children, hch, Document.children_nextId]
    loose c hc := hd'.loose c ((hch n).symm ▸ hc)
    below m c hc := Document.below_congr h hd'.wellFormed (hchildren c hc)
    children c hc := hchildren c hc c (Document.below_refl d c)
    tree c hc := Document.tree_congr h hd'.wellFormed fun m hm =>
      ⟨hkind m (hlt (hm.contains_lower (h.contains_child hc))), hchildren c hc m hm⟩ }

/-- The first steps never fail. -/
theorem run_setAside {k : NodeKind} (h : d.WellFormed) (hk : d.kind? n = some k)
    (hp : d.parent? n = some p) (hroot : d.Below p root) :
    ∃ d₁ d', (cloneNode n false).run d = .ok d.nextId d₁ ∧
      (detachChildren n).run d₁ = .ok (d.children n) d' ∧ SetAside d d' n p := by
  obtain ⟨d', hrun, hd'⟩ := run_detachChildren (n := n) (h.push k)
  rw [Document.children_push] at hrun
  exact ⟨d.push k, d', run_cloneNode_shallow hk, hrun, .of_childrenDetached h hk hp hroot hd'⟩

/-! What the first steps leave of a child `c`. -/

namespace SetAside

variable {d₁ : Document} (h : SetAside d d₁ n p) (hwf : d.WellFormed) (hc : c ∈ d.children n)
include h hwf hc

/-- Setting the children aside does not change their kinds. -/
theorem kind_child : d₁.kind? c = d.kind? c :=
  h.kind c (Document.index_lt_of_contains (hwf.contains_child hc))

/-- So it is decided as before which of them stay. -/
theorem keeps_child (policy : Policy) : policy.keeps d₁ c = policy.keeps d c := by
  rw [Policy.keeps, h.kind_child hwf hc, Policy.keeps]

/-- Below a child nothing is done before the children are gathered. -/
theorem same_below (hm : d.Below m c) (hmc : m ≠ c) : SameAt d d₁ m := by
  have hcon : d.contains m = true := hm.contains_lower (hwf.contains_child hc)
  refine h.same m (Document.index_lt_of_contains hcon) ?_ fun hmem => ?_
  · rintro rfl
    exact hwf.not_below_of_parent (hwf.parent_of_mem hc) hm
  · exact hmc (Document.eq_of_below_children hwf hmem hc (Document.below_refl d m) hm)

end SetAside

/-! ### The element and its replacement -/

/-- The nodes that take the place of an element that is converted. -/
def Outcome.nodes : Outcome → List NodeId
  | replaced r => [r]
  | removed | skipped => []

/-- The nodes `R` have been put in the place of the child `n` of `p`. -/
structure Substituted (d d' : Document) (n p : NodeId) (R : List NodeId) : Prop where
  wellFormed : d'.WellFormed
  size_le : d.size ≤ d'.size
  same (m : NodeId) : m.index < d.size → m ≠ p → ¬ d.Below m n → SameAt d d' m
  kind_parent : d'.kind? p = d.kind? p
  parent_parent : d'.parent? p = d.parent? p
  children_parent : d'.children p = substitute n R (d.children p)
  gone : d'.contains n = false
  fresh : ∀ r ∈ R, d.size ≤ r.index
  /-- Nothing new is left over. -/
  attached (m : NodeId) : d.size ≤ m.index → d'.contains m = true → ∃ q, d'.parent? m = some q

/-- The children of `n` that stay are under `r` by now, with all that is below them and an island
    after them, and the rejected sources among the children are gone. -/
structure Inherited (policy : Policy) (d d' : Document) (n r : NodeId) : Prop where
  parent : ∀ c ∈ d.children n, policy.keeps d c = true → d'.parent? c = some r
  children_replacement : ∃ island,
    d'.children r = (d.children n).filter (policy.keeps d) ++ [island] ∧
      d'.kind? island = some (.ofElement fallbackTag .empty)
  children : ∀ c ∈ d.children n, policy.keeps d c = true → d'.children c = d.children c
  same_below : ∀ c ∈ d.children n, policy.keeps d c = true → ∀ m, d.Below m c → m ≠ c →
    SameAt d d' m
  tree : ∀ c ∈ d.children n, policy.keeps d c = true → ∃ marked,
    d'.tree c = (d.tree c).mapAttributes (policy.keptAttributes marked (d.tree c).kind)
  gone : ∀ c ∈ d.children n, policy.keeps d c = false → ∀ m, d.Below m c → d'.contains m = false

/-- What has become of the nodes below `n`. -/
inductive Inside (policy : Policy) (d d' : Document) (n : NodeId) : Outcome → Prop where
  | replaced {r : NodeId} : Inherited policy d d' n r → Inside policy d d' n (.replaced r)
  | removed : (∀ m, d.Below m n → d'.contains m = false) → Inside policy d d' n .removed

/-! ### The first steps, the children and the last steps together -/

section Together

variable {policy : Policy} {d₁ d₂ : Document} (hwf : d.WellFormed) (h₁ : SetAside d d₁ n p)
  (h₂ : ChildrenGathered policy d₁ d₂ false (d.children n))
include hwf h₁ h₂

/-- The bare copy is not touched when the children are gathered. -/
theorem same_fallback : SameAt d₁ d₂ d.nextId := h₂.same _ fun _ hc =>
  h₁.fallback.not_below (Ne.symm (Document.ne_nextId_of_contains (hwf.contains_child hc)))

/-- What has been gathered after the first steps. -/
theorem Opened.of_gathered {g : Gathered} (hg : g.kept = (d.children n).filter (policy.keeps d)) :
    Opened d₂ n p d.nextId g.kept := by
  have hout : ∀ m, d₁.Below m root → SameAt d₁ d₂ m := fun m hm =>
    h₂.same m fun c hc => (h₁.loose c hc).not_below_of_connected h₁.wellFormed hm
  have hn : SameAt d₁ d₂ n := hout n ((Document.below_of_parent h₁.parent).trans h₁.connected)
  have hf : SameAt d₁ d₂ d.nextId := same_fallback hwf h₁ h₂
  have hmem : ∀ c ∈ g.kept, c ∈ d.children n ∧ policy.keeps d c = true := fun c hc => by
    rwa [hg, List.mem_filter] at hc
  exact {
    wellFormed := h₂.wellFormed
    parent := hn.parent?.trans h₁.parent
    connected := h₁.connected.of_parents fun m _ hm _ => (hout m hm).parent?
    bare := hn.children.trans h₁.bare
    fallback := h₁.fallback.of_sameAt hf
    bare_fallback := hf.children.trans h₁.bare_fallback
    loose c hc := by
      obtain ⟨hc, hkeep⟩ := hmem c hc
      exact h₂.loose c hc ((h₁.keeps_child hwf hc policy).trans hkeep)
    ne_fallback c hc := Document.ne_nextId_of_contains (hwf.contains_child (hmem c hc).1)
    nodup := hg ▸ (hwf.nodup_children n).filter _ }

/-- What is not below the element is not touched before the last steps, and it is in no tree that
    has been gathered. -/
theorem same_before_last (hm : m.index < d.size) (hmn : ¬ d.Below m n) :
    SameAt d d₂ m ∧ ∀ c ∈ d.children n, ¬ d₂.Below m c := by
  have hmc : ∀ c ∈ d.children n, ¬ d₁.Below m c := fun c hc hb =>
    hmn (Document.below_of_mem_children hwf hc ((h₁.below m c hc).mp hb))
  refine ⟨(h₁.same m hm ?_ fun hmem => ?_).trans (h₂.same m hmc),
    Document.not_below_of_same h₂.same hmc⟩
  · exact fun heq => hmn (heq ▸ Document.below_refl d m)
  · exact hmn (Document.below_of_parent (hwf.parent_of_mem hmem))

/-- The last steps put `R` in the place of the element in the original document as well. -/
theorem Substituted.of_closed (hp : d.parent? n = some p)
    (h₃ : Closed d₂ d' n p d.nextId cs R) (hcs : ∀ c ∈ cs, c ∈ d.children n) :
    Substituted d d' n p R := by
  have hsize : d₂.size = d.size + 1 := h₂.size_eq.trans h₁.size_eq
  have hpar : SameAt d d₂ p :=
    (same_before_last hwf h₁ h₂ (Document.index_lt_of_contains (hwf.contains_parent hp))
      (hwf.not_below_of_parent hp)).1
  exact {
    wellFormed := h₃.wellFormed
    size_le := by
      have := h₃.size_le
      omega
    same m hm hmp hmn := by
      obtain ⟨hmsame, hmc⟩ := same_before_last hwf h₁ h₂ hm hmn
      refine hmsame.trans (h₃.same m (by omega) ?_ hmp (Document.ne_nextId_of_lt hm)
        fun c hc => hmc c (hcs c hc))
      exact fun heq => hmn (heq ▸ Document.below_refl d m)
    kind_parent := h₃.kind_parent.trans hpar.kind?
    parent_parent := h₃.parent_parent.trans hpar.parent?
    children_parent := by rw [h₃.children_parent, hpar.children]
    gone := h₃.gone
    fresh r hr := by
      have := h₃.fresh r hr
      omega
    attached m hm hcon := by
      refine h₃.attached m ?_ hcon
      by_cases hmf : m = d.nextId
      · exact .inl hmf
      · have hne : m.index ≠ d.size := fun heq => hmf (congrArg NodeId.mk heq)
        exact .inr (by omega) }

end Together

/-! ### What the tree of an element shows -/

/-- A tree is a usable source just if its node has a URL to use. -/
theorem isUsableSource_eq (policy : Policy) (t : Tree) :
    policy.isUsableSource t = (policy.usableUrl? t.kind).isSome := by
  rw [Policy.isUsableSource, Policy.usableUrl?]
  cases hsrc : sourceUrl? t.kind with
  | none => rfl
  | some src => cases hcheck : policy.checkUrl .alternateSource src <;> simp [hcheck] <;> rfl

/-- The tree of an element shows whether it has a usable source. -/
theorem hasUsableSource_eq {policy : Policy} {tag : String} {b : Attributes} (h : d.WellFormed)
    (hk : d.kind? n = some (.element tag b)) :
    policy.hasUsableSource d n = ((policy.filter audioRules b).contains "src" ||
      ((d.children n).map d.tree).any policy.isUsableSource) := by
  rw [Policy.hasUsableSource, Document.attributes?_of_kind? hk, Option.getD_some, List.any_map]
  congr 1
  refine List.any_congr rfl fun c => ?_
  rw [Function.comp_apply, isUsableSource_eq, Document.tree_eq h, Tree.kind, usableUrl?_getD]

/-! ### What is gathered from the original document -/

section

variable {policy : Policy} {tag : String} {b : Attributes}

/-- What is known before the first child of an element with the attributes `b`. -/
def Policy.gatherStart (policy : Policy) (b : Attributes) : Gathered :=
  { attributes := policy.filter audioRules b
    sources := if (policy.filter audioRules b).contains "src" then 1 else 0 }

/-- What is known after all children of `n`, an element with the attributes `b`. -/
def Policy.gatheredFrom (policy : Policy) (d : Document) (n : NodeId) (b : Attributes) : Gathered :=
  (d.children n).foldl (policy.gatheredAt d) (policy.gatherStart b)

/-- Kept are the children of the element that are no rejected sources, in their order. -/
theorem kept_gatheredFrom : (policy.gatheredFrom d n b).kept =
    (d.children n).filter (policy.keeps d) := by
  rw [Policy.gatheredFrom, kept_foldl_gatheredAt]
  rfl

/-- Only children of the element are kept. -/
theorem mem_children_of_mem_kept (hc : c ∈ (policy.gatheredFrom d n b).kept) :
    c ∈ d.children n := by
  rw [kept_gatheredFrom, List.mem_filter] at hc
  exact hc.1

/-- The issues are those of the rejected sources, in the order of the children. -/
theorem issues_gatheredFrom : (policy.gatheredFrom d n b).issues =
    (d.children n).filterMap fun c => (d.kind? c).bind policy.sourceIssue? := by
  rw [Policy.gatheredFrom, issues_foldl_gatheredAt]
  rfl

/-- However often the attributes are filtered, they come out as if filtered once. -/
theorem attributes_gatheredFrom :
    (policy.gatheredFrom d n b).attributes = policy.filter audioRules b :=
  attributes_foldl_gatheredAt (filter_audioRules_filter policy b) _

/-- The sources that have been counted tell whether there is a usable one. -/
theorem sources_gatheredFrom_eq_zero (policy : Policy) (hk : d.kind? n = some (.element tag b)) :
    (policy.gatheredFrom d n b).sources = 0 ↔ policy.hasUsableSource d n = false := by
  rw [Policy.gatheredFrom, sources_foldl_gatheredAt, Policy.gatherStart, Policy.hasUsableSource,
    Document.attributes?_of_kind? hk, Option.getD_some, Bool.or_eq_false_iff, Nat.add_eq_zero_iff,
    List.countP_eq_zero, List.any_eq_false]
  refine and_congr_left fun _ => ?_
  cases (policy.filter audioRules b).contains "src" <;> simp

/-- Children that have not been touched are judged as in the original document. -/
theorem gatheredAt_congr {cs : List NodeId} (hkind : ∀ c ∈ cs, d'.kind? c = d.kind? c)
    (g : Gathered) : cs.foldl (policy.gatheredAt d') g = cs.foldl (policy.gatheredAt d) g :=
  List.foldl_ext _ _ _ fun g c hc => by
    rw [Policy.gatheredAt, Policy.gatheredAt, hkind c hc]

/-! ### Up to the last steps -/

/-- The element has been set aside and its children have been gathered. -/
structure Prepared (policy : Policy) (d d' : Document) (n p : NodeId) (tag : String)
    (b : Attributes) : Prop where
  opened : Opened d' n p d.nextId (policy.gatheredFrom d n b).kept
  kind_fallback : d'.kind? d.nextId = some (.element tag b)
  trees : (policy.gatheredFrom d n b).kept.map d'.tree =
    markFirst (((d.children n).map d.tree).filterMap policy.keepTree?)
  same_below : ∀ c ∈ d.children n, policy.keeps d c = true → ∀ m, d.Below m c → m ≠ c →
    SameAt d d' m
  children : ∀ c ∈ d.children n, policy.keeps d c = true → d'.children c = d.children c
  tree : ∀ c ∈ d.children n, policy.keeps d c = true → ∃ marked,
    d'.tree c = (d.tree c).mapAttributes (policy.keptAttributes marked (d.tree c).kind)
  gone : ∀ c ∈ d.children n, policy.keeps d c = false → ∀ m, d.Below m c →
    m.index < d'.size ∧ d'.contains m = false
  /-- The last steps put `R` in the place of the element in the original document as well. -/
  substituted {e : Document} {R : List NodeId} :
    Closed d' e n p d.nextId (policy.gatheredFrom d n b).kept R → Substituted d e n p R

namespace Prepared

/-- Membership in the children that are kept, read off the original document. -/
theorem mem_kept_iff : c ∈ (policy.gatheredFrom d n b).kept ↔
    c ∈ d.children n ∧ policy.keeps d c = true := by
  rw [kept_gatheredFrom, List.mem_filter]

/-- What was below a child that stays still is. -/
theorem below (h : Prepared policy d d' n p tag b) (hc : c ∈ d.children n)
    (hkeep : policy.keeps d c = true) (hm : d.Below m c) : d'.Below m c :=
  hm.of_parents fun x _ hx hxc => (h.same_below c hc hkeep x hx hxc).parent?

/-- What is below a rejected source is gone after the last steps as well. -/
theorem gone_closed (h : Prepared policy d d' n p tag b) {e : Document} {R : List NodeId}
    (hclosed : Closed d' e n p d.nextId (policy.gatheredFrom d n b).kept R)
    (hc : c ∈ d.children n) (hkeep : policy.keeps d c = false) (hm : d.Below m c) :
    e.contains m = false := by
  obtain ⟨hlt, hgone⟩ := h.gone c hc hkeep m hm
  exact hclosed.not_contains h.opened hlt hgone

/-- The replacement has inherited the children that stay, with all that is below them. -/
theorem inherited (h : Prepared policy d d' n p tag b) {e : Document} {r : NodeId}
    (hclosed : Closed d' e n p d.nextId (policy.gatheredFrom d n b).kept [r])
    (hmoved : Moved d' e r (policy.gatheredFrom d n b).kept)
    (hisland : ∃ island, e.children r = (policy.gatheredFrom d n b).kept ++ [island] ∧
      e.kind? island = some (.ofElement fallbackTag .empty)) : Inherited policy d e n r where
  parent c hc hkeep := hmoved.parent c (mem_kept_iff.mpr ⟨hc, hkeep⟩)
  children_replacement := kept_gatheredFrom ▸ hisland
  children c hc hkeep := (hmoved.children c (mem_kept_iff.mpr ⟨hc, hkeep⟩)).trans
    (h.children c hc hkeep)
  same_below c hc hkeep m hm hmc := (h.same_below c hc hkeep m hm hmc).trans
    (hmoved.same c (mem_kept_iff.mpr ⟨hc, hkeep⟩) m (h.below hc hkeep hm) hmc)
  tree c hc hkeep := by
    rw [hmoved.tree c (mem_kept_iff.mpr ⟨hc, hkeep⟩)]
    exact h.tree c hc hkeep
  gone c hc hkeep _ hm := h.gone_closed hclosed hc hkeep hm

/-- If the element is removed, everything that was below it is gone. -/
theorem removed (h : Prepared policy d d' n p tag b) (hwf : d.WellFormed) {e : Document}
    (hclosed : Closed d' e n p d.nextId (policy.gatheredFrom d n b).kept [])
    (hgone : ∀ c ∈ (policy.gatheredFrom d n b).kept, ∀ m, d'.Below m c → e.contains m = false)
    (hm : d.Below m n) : e.contains m = false := by
  rcases hm.cases_child hwf with rfl | ⟨c, hc, hmc⟩
  · exact hclosed.gone
  · cases hkeep : policy.keeps d c with
    | true => exact hgone c (mem_kept_iff.mpr ⟨hc, hkeep⟩) m (h.below hc hkeep hmc)
    | false => exact h.gone_closed hclosed hc hkeep hmc

end Prepared

/-- What gathering the children makes of the element that has been set aside. -/
theorem Prepared.of_gathered {d₁ d₂ : Document} (h : d.WellFormed)
    (hk : d.kind? n = some (.element tag b)) (hp : d.parent? n = some p)
    (h₁ : SetAside d d₁ n p) (h₂ : ChildrenGathered policy d₁ d₂ false (d.children n)) :
    Prepared policy d d₂ n p tag b := by
  have hkeep : ∀ c ∈ d.children n, policy.keeps d₁ c = policy.keeps d c := fun c hc =>
    h₁.keeps_child h hc policy
  exact {
    opened := .of_gathered h h₁ h₂ kept_gatheredFrom
    kind_fallback := by rw [(same_fallback h h₁ h₂).kind?, h₁.kind_fallback, hk]
    trees := by
      rw [kept_gatheredFrom, List.filter_congr fun c hc => (hkeep c hc).symm, h₂.trees,
        markFrom_false, List.map_congr_left h₁.tree]
    same_below c hc hstays m hm hmc := (h₁.same_below h hc hm hmc).trans <|
      h₂.same_below c hc ((hkeep c hc).trans hstays) m ((h₁.below m c hc).mpr hm) hmc
    children c hc hstays := by
      rw [h₂.children c hc ((hkeep c hc).trans hstays), h₁.children c hc]
    tree c hc hstays := by
      rw [← h₁.tree c hc]
      exact h₂.tree c hc ((hkeep c hc).trans hstays)
    gone c hc hdrop m hm := by
      refine ⟨?_, h₂.gone c hc ((hkeep c hc).trans hdrop) m ((h₁.below m c hc).mpr hm)⟩
      have hlt := Document.index_lt_of_contains (hm.contains_lower (h.contains_child hc))
      have := h₂.size_eq.trans h₁.size_eq
      omega
    substituted hclosed :=
      .of_closed h h₁ h₂ hp hclosed fun _ => mem_children_of_mem_kept }

/-- The conversion of a connected element outside an island is the rebuilding of the element after
    the first steps, if that succeeds. -/
theorem run_convert_eq {d₁ d₂ : Document} {result : Outcome × List Issue} (h : d.WellFormed)
    (hk : d.kind? n = some (.element tag b)) (hp : d.parent? n = some p) (hroot : d.Below p root)
    (hisland : d.isInFallbackIsland n = false) {f : NodeId} {children : List NodeId}
    (hclone : (cloneNode n false).run d = .ok f d₁)
    (hdetach : (detachChildren n).run d₁ = .ok children d₂)
    (hrebuild : (policy.rebuild n f (policy.filter audioRules b) children).run d₂ =
      .ok result d') : (policy.convert n).run d = .ok result d' := by
  have hconnected : d.isConnected n = true :=
    (Document.isConnected_iff h).mpr ((Document.below_of_parent hp).trans hroot)
  rw [Policy.convert, run_bind_ok (EStateM.run_get d), hconnected, hisland,
    Document.attributes?_of_kind? hk]
  dsimp only
  rw [if_neg (by simp), Option.getD_some, run_bind_ok (run_orThrow_ok hclone _),
    run_bind_ok (run_orThrow_ok hdetach _)]
  exact run_tryCatch_ok hrebuild

/-- Everything before the last steps succeeds, and the conversion ends as the last steps do. -/
theorem run_prepare (policy : Policy) (h : d.WellFormed)
    (hk : d.kind? n = some (.element tag b)) (hp : d.parent? n = some p) (hroot : d.Below p root)
    (hisland : d.isInFallbackIsland n = false) :
    ∃ d₁, Prepared policy d d₁ n p tag b ∧ ∀ result d',
      (if (policy.gatheredFrom d n b).sources = 0 then
          removeElement n d.nextId (policy.gatheredFrom d n b)
        else replaceElement n d.nextId (policy.gatheredFrom d n b)
          ((policy.gatheredFrom d n b).attributes.set "width" "auto")).run d₁ = .ok result d' →
      (policy.convert n).run d = .ok result d' := by
  obtain ⟨d₁, d₂, hclone, hdetach, h₁⟩ := run_setAside h hk hp hroot
  obtain ⟨d₃, hgather, h₂⟩ := run_gatherChildren policy (policy.gatherStart b) h₁.wellFormed
    h₁.loose (h.nodup_children n)
  rw [gatheredAt_congr fun c hc => h₁.kind_child h hc, ← Policy.gatheredFrom] at hgather
  refine ⟨d₃, .of_gathered h hk hp h₁ h₂, fun result d' hlast => ?_⟩
  refine run_convert_eq h hk hp hroot hisland hclone hdetach ?_
  rw [Policy.rebuild, ← Policy.gatherStart, run_bind_ok hgather]
  split_ifs with hsources
  · rw [if_pos hsources] at hlast
    exact run_orThrow_ok hlast _
  · rw [if_neg hsources] at hlast
    exact run_orThrow_ok hlast _

/-! ### The conversion as a whole -/

/-- The conversion of a connected audio element outside an island puts its replacement in its place,
    and what comes of it is as the verdict on the element says. -/
theorem run_convert (h : d.WellFormed) (hk : d.kind? n = some (.element tag b))
    (hp : d.parent? n = some p) (hroot : d.Below p root)
    (hisland : d.isInFallbackIsland n = false) :
    ∃ outcome d', (policy.convert n).run d = .ok (outcome, policy.issuesOf d n) d' ∧
      outcome.verdict = policy.verdict d n ∧
      Substituted d d' n p outcome.nodes ∧ Inside policy d d' n outcome ∧
      outcome.nodes.map d'.tree =
        policy.replaceTree (.element tag b) ((d.children n).map d.tree) := by
  obtain ⟨d₁, hd₁, hrun⟩ := run_prepare policy h hk hp hroot hisland
  have hsources := sources_gatheredFrom_eq_zero policy hk
  have hverdict : policy.verdict d n =
      if policy.hasUsableSource d n then .replace else .remove := by
    rw [Policy.verdict, if_neg (by simp [hisland])]
  cases husable : policy.hasUsableSource d n with
  | false =>
    obtain ⟨d', hlast, hclosed, hgone⟩ := run_removeElement hd₁.opened
    refine ⟨.removed, d', hrun _ _ ?_, ?_, hd₁.substituted hclosed,
      .removed fun m hm => hd₁.removed h hclosed hgone hm, ?_⟩
    · rw [if_pos (hsources.mpr husable), hlast, Policy.issuesOf, hverdict, husable,
        issues_gatheredFrom]
      rfl
    · rw [hverdict, husable]
      rfl
    · rw [hasUsableSource_eq h hk] at husable
      simp only [Outcome.nodes, Policy.replaceTree, NodeKind.attributes?, Option.getD_some, husable]
      rfl
  | true =>
    obtain ⟨d', hlast, hclosed, hmoved, hbelow, htree⟩ := run_replaceElement
      ((policy.gatheredFrom d n b).attributes.set "width" "auto") hd₁.opened hd₁.kind_fallback
    have hne : (policy.gatheredFrom d n b).sources ≠ 0 := fun heq => by
      rw [hsources, husable] at heq
      exact Bool.noConfusion heq
    refine ⟨.replaced d₁.nextId, d', hrun _ _ ?_, ?_, hd₁.substituted hclosed,
      .replaced (hd₁.inherited hclosed hmoved hbelow), ?_⟩
    · rw [if_neg hne, hlast, Policy.issuesOf, hverdict, husable, issues_gatheredFrom]
      simp
    · rw [hverdict, husable]
      rfl
    · rw [hasUsableSource_eq h hk] at husable
      simp only [Outcome.nodes, List.map_cons, List.map_nil, htree, hd₁.trees,
        attributes_gatheredFrom, Policy.replaceTree, NodeKind.attributes?, Option.getD_some,
        husable, NodeKind.mapAttributes]
      rfl

end

/-- Inside an island nothing happens. -/
theorem run_convert_island {policy : Policy} (hisland : d.isInFallbackIsland n = true) :
    (policy.convert n).run d = .ok (.skipped, []) d := by
  rw [Policy.convert, run_bind_ok (EStateM.run_get d), hisland, Bool.or_true]
  rfl

end Conversion

end AmpMarkup
