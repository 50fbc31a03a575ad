import AmpMarkup.Conversion.TreeConversion
import AmpMarkup.Conversion.Verdict
import AmpMarkup.Proofs.Document.Detached

namespace AmpMarkup

open Document (WellFormed Loose SameAt)

/-!
# Gathering the children of an audio element

The children that have been taken out are visited in order: a source with a URL that may not be
loaded is discarded with its tree, any other child stays and at most its attributes change.

* `Policy.gathered` — what is known after one more child; it depends on the kind of the child only.
* `run_gatherChild_kept`, `run_gatherChild_rejected` — what happens to the document.
* `ChildrenGathered`, `run_gatherChildren` — what all of it comes to, in particular for the trees of
  the children that stay.
* `kept_foldl_gatheredAt` and its like — what is known at the end.
-/

variable {d d' : Document} {m n p c : NodeId}

/-! ### Kinds with other attributes -/

namespace NodeKind

@[simp] theorem mapAttributes_id (k : NodeKind) : k.mapAttributes id = k := by cases k <;> rfl

@[simp] theorem mapAttributes_mapAttributes (k : NodeKind) (f g : Attributes → Attributes) :
    (k.mapAttributes f).mapAttributes g = k.mapAttributes (g ∘ f) := by
  cases k <;> rfl

@[simp] theorem tagName?_mapAttributes (k : NodeKind) (f : Attributes → Attributes) :
    (k.mapAttributes f).tagName? = k.tagName? := by
  cases k <;> rfl

@[simp] theorem isNamed_mapAttributes (k : NodeKind) (f : Attributes → Attributes)
    (name : String) : (k.mapAttributes f).isNamed name = k.isNamed name := by
  rw [isNamed, tagName?_mapAttributes, isNamed]

/-- What has a name is an element. -/
theorem eq_element_of_tagName? {k : NodeKind} {tag : String} (h : k.tagName? = some tag) :
    ∃ a, k = .element tag a := by
  cases k with
  | element name a => exact ⟨a, by rw [← Option.some.inj h]⟩
  | document => cases h
  | text content => cases h
  | comment content => cases h

/-- What answers to a name is an element. -/
theorem eq_element_of_isNamed {k : NodeKind} {name : String} (h : k.isNamed name = true) :
    ∃ tag a, k = .element tag a := by
  cases htag : k.tagName? with
  | none => simp [isNamed, htag] at h
  | some tag =>
    obtain ⟨a, ha⟩ := eq_element_of_tagName? htag
    exact ⟨tag, a, ha⟩

end NodeKind

namespace Document

/-- A change of a kind that comes to nothing. -/
theorem mapKind_eq_self {k : NodeKind} (hk : d.kind? n = some k) {f : NodeKind → NodeKind}
    (hf : f k = k) : d.mapKind n f = d := by
  obtain ⟨slots⟩ := d
  simp only [mapKind, modifySlot, Document.mk.injEq]
  apply Array.ext_getElem?
  intro i
  rw [Array.getElem?_modify]
  by_cases hi : n.index = i
  · subst hi
    rw [if_pos rfl]
    cases hs : slots[n.index]? with
    | none => rfl
    | some s =>
      obtain ⟨s', hs', rfl⟩ := Option.map_eq_some_iff.mp hk
      have heq : s = s' := Option.some.inj (hs.symm.trans (slot?_eq_some_iff.mp hs').1)
      simp [heq, hf]
  · rw [if_neg hi]

/-- Two changes of one kind, one after the other, are one change by both. -/
theorem mapKind_mapKind (f g : NodeKind → NodeKind) :
    (d.mapKind n f).mapKind n g = d.mapKind n (g ∘ f) :=
  modifySlot_modifySlot fun _ _ => rfl

end Document

namespace Conversion

variable {policy : Policy} {k : NodeKind} {g : Gathered}

/-! ### One child -/

@[simp] theorem isFallbackContent_mapAttributes (k : NodeKind) (f : Attributes → Attributes) :
    isFallbackContent (k.mapAttributes f) = isFallbackContent k := by
  simp [isFallbackContent]

/-- What becomes of the attributes of a child that stays, as far as it is a source. -/
def Policy.sourceAttributes (policy : Policy) (k : NodeKind) : Attributes → Attributes :=
  match policy.usableUrl? k with
  | some url => (·.set "src" url)
  | none => id

/-- What becomes of the attributes of a child that stays, as far as it is to be marked. -/
def markAttributes (marked : Bool) (k : NodeKind) : Attributes → Attributes :=
  if !marked && isFallbackContent k then (·.set fallbackAttribute "") else id

/-- What becomes of the attributes of a child that stays. -/
def Policy.keptAttributes (policy : Policy) (marked : Bool) (k : NodeKind) :
    Attributes → Attributes :=
  markAttributes marked k ∘ policy.sourceAttributes k

/-- What is known after one more child `c`, which is a `k`. -/
def Policy.gathered (policy : Policy) (g : Gathered) (c : NodeId) (k : NodeKind) : Gathered :=
  match policy.sourceIssue? k with
  | some issue => { g with issues := g.issues ++ [issue] }
  | none => { g with
      attributes :=
        if (policy.usableUrl? k).isSome then policy.filter audioRules g.attributes
        else g.attributes
      sources := g.sources + if (policy.usableUrl? k).isSome then 1 else 0
      marked := g.marked || isFallbackContent k
      kept := g.kept ++ [c] }

/-- A child is kept, with a mark if it is the first that can have one. -/
theorem run_keepChild (hk : d.kind? c = some k) :
    (keepChild g c).run d =
      .ok { g with marked := g.marked || isFallbackContent k, kept := g.kept ++ [c] }
        (d.mapKind c (·.mapAttributes (markAttributes g.marked k))) := by
  have hany : (d.kind? c).any isFallbackContent = isFallbackContent k := by rw [hk]; rfl
  rw [keepChild, Edit.run_bind_ok (EStateM.run_get d), markAttributes, hany]
  dsimp only
  cases hmarks : (!g.marked && isFallbackContent k) with
  | false =>
    have hor : (g.marked || false) = (g.marked || isFallbackContent k) := by
      cases hm : g.marked <;> simp_all
    rw [if_neg Bool.false_ne_true, if_neg Bool.false_ne_true, hor,
      Document.mapKind_eq_self hk k.mapAttributes_id]
    rfl
  | true =>
    rw [Bool.and_eq_true, Bool.not_eq_true'] at hmarks
    obtain ⟨hmarked, hcontent⟩ := hmarks
    have hel : ∃ tag a, k = .element tag a := by
      rw [isFallbackContent, Bool.and_eq_true, Bool.and_eq_true] at hcontent
      obtain ⟨tag, htag⟩ := Option.isSome_iff_exists.mp hcontent.1.1
      exact ⟨tag, NodeKind.eq_element_of_tagName? htag⟩
    obtain ⟨tag, a, rfl⟩ := hel
    rw [if_pos rfl, if_pos rfl,
      Edit.run_bind_ok (Edit.run_orThrow_ok (Edit.run_setAttribute hk _ _) _), hmarked, hcontent]
    rfl

/-- What is no source has no URL to use. -/
theorem usableUrl?_eq_none (h : sourceUrl? k = none) : policy.usableUrl? k = none := by
  rw [Policy.usableUrl?, h, Option.bind_none]

/-- What is no source has no issue. -/
theorem sourceIssue?_eq_none (h : sourceUrl? k = none) : policy.sourceIssue? k = none := by
  rw [Policy.sourceIssue?, h, Option.bind_none]

/-- A child without an issue stays. -/
theorem run_gatherChild_kept (hk : d.kind? c = some k) (hissue : policy.sourceIssue? k = none) :
    (policy.gatherChild g c).run d =
      .ok (policy.gathered g c k)
        (d.mapKind c (·.mapAttributes (policy.keptAttributes g.marked k))) := by
  have hbind : (d.kind? c).bind sourceUrl? = sourceUrl? k := by rw [hk, Option.bind_some]
  rw [Policy.gatherChild, Edit.run_bind_ok (EStateM.run_get d), hbind, Policy.gathered, hissue,
    Policy.keptAttributes, Policy.sourceAttributes]
  cases hsrc : sourceUrl? k with
  | none =>
    rw [usableUrl?_eq_none hsrc]
    exact run_keepChild hk
  | some src =>
    have hnamed : k.isNamed sourceTag = true := by
      by_contra hne
      simp [sourceUrl?, hne] at hsrc
    obtain ⟨tag, a, rfl⟩ := NodeKind.eq_element_of_isNamed hnamed
    cases hcheck : policy.checkUrl .alternateSource src with
    | error rejection => simp [Policy.sourceIssue?, hsrc, hcheck] at hissue
    | ok url =>
      have husable : policy.usableUrl? (.element tag a) = some url := by
        simp [Policy.usableUrl?, hsrc, hcheck, Except.toOption]
      have hk' : (d.mapKind c (·.mapAttributes (·.set "src" url))).kind? c =
          some ((NodeKind.element tag a).mapAttributes (·.set "src" url)) := by
        rw [Document.kind?_mapKind, if_pos rfl, hk, Option.map_some]
      rw [husable]
      dsimp only
      rw [hcheck]
      dsimp only
      rw [Edit.run_bind_ok (Edit.run_orThrow_ok (Edit.run_setAttribute hk _ _) _),
        run_keepChild hk', Document.mapKind_mapKind, isFallbackContent_mapAttributes]
      congr 2
      funext k
      simp [markAttributes]

/-- A child with an issue is discarded. -/
theorem run_gatherChild_rejected (h : d.WellFormed) (hc : d.Loose c) (hk : d.kind? c = some k)
    {issue : Issue} (hissue : policy.sourceIssue? k = some issue) :
    (policy.gatherChild g c).run d = .ok (policy.gathered g c k) (d.without c) := by
  have hbind : (d.kind? c).bind sourceUrl? = sourceUrl? k := by rw [hk, Option.bind_some]
  rw [Policy.gatherChild, Edit.run_bind_ok (EStateM.run_get d), hbind, Policy.gathered, hissue]
  rw [Policy.sourceIssue?, Option.bind_eq_some_iff] at hissue
  obtain ⟨src, hsrc, hissue⟩ := hissue
  rw [hsrc]
  cases hcheck : policy.checkUrl .alternateSource src with
  | ok url => simp [hcheck] at hissue
  | error rejection =>
    rw [hcheck, Option.some.injEq] at hissue
    dsimp only
    rw [hcheck]
    dsimp only
    rw [Edit.run_bind_ok (Edit.run_orThrow_ok (Edit.run_discard h hc.ne_root hc.contains) _),
      hissue]
    rfl

/-! ### The trees of the children that stay -/

/-- The trees with a mark on the first that can have one, unless there has been one before. -/
def markFrom : Bool → List Tree → List Tree
  | _, [] => []
  | marked, t :: rest =>
    t.mapAttributes (markAttributes marked t.kind) ::
      markFrom (marked || isFallbackContent t.kind) rest

@[simp] theorem tree_mapAttributes_id (t : Tree) : t.mapAttributes id = t := by
  obtain ⟨k, ts⟩ := t
  rw [Tree.mapAttributes, NodeKind.mapAttributes_id]

/-- Once there has been a mark, the trees are left as they are. -/
theorem markFrom_true (ts : List Tree) : markFrom true ts = ts := by
  induction ts with
  | nil => rfl
  | cons t rest ih =>
    have hid : markAttributes true t.kind = id := if_neg (by simp)
    rw [markFrom, Bool.true_or, ih, hid, tree_mapAttributes_id]

/-- Marking from the beginning is marking the first. -/
theorem markFrom_false (ts : List Tree) : markFrom false ts = markFirst ts := by
  induction ts with
  | nil => rfl
  | cons t rest ih =>
    rw [markFrom, markFirst, Bool.false_or, markAttributes, Bool.not_false, Bool.true_and]
    cases hcontent : isFallbackContent t.kind with
    | true => rw [if_pos rfl, if_pos rfl, markFrom_true]
    | false =>
      rw [if_neg Bool.false_ne_true, if_neg Bool.false_ne_true, ih, tree_mapAttributes_id]

/-- What stays of a tree depends on what has to be reported about its top. -/
theorem keepTree?_eq (t : Tree) :
    policy.keepTree? t =
      if policy.sourceIssue? t.kind = none then
        some (t.mapAttributes (policy.sourceAttributes t.kind))
      else none := by
  rw [Policy.keepTree?, Policy.sourceIssue?, Policy.sourceAttributes, Policy.usableUrl?]
  cases hsrc : sourceUrl? t.kind with
  | none => simp
  | some src =>
    cases hcheck : policy.checkUrl .alternateSource src with
    | ok url => simp [hcheck, Except.toOption]
    | error rejection => simp [hcheck]

/-! ### All children -/

/-- Does a child stay? -/
def Policy.keeps (policy : Policy) (d : Document) (c : NodeId) : Bool :=
  ((d.kind? c).bind policy.sourceIssue?).isNone

/-- What is known after one more child, as the document has it. -/
def Policy.gatheredAt (policy : Policy) (d : Document) (g : Gathered) (c : NodeId) : Gathered :=
  policy.gathered g c ((d.kind? c).getD .document)

/-- What gathering the loose nodes `cs` does to the document; `marked` says whether there has been a
    mark before. -/
structure ChildrenGathered (policy : Policy) (d d' : Document) (marked : Bool)
    (cs : List NodeId) : Prop where
  wellFormed : d'.WellFormed
  size_eq : d'.size = d.size
  same (m : NodeId) : (∀ c ∈ cs, ¬ d.Below m c) → SameAt d d' m
  loose : ∀ c ∈ cs, policy.keeps d c = true → d'.Loose c
  same_below : ∀ c ∈ cs, policy.keeps d c = true → ∀ m, d.Below m c → m ≠ c → SameAt d d' m
  children : ∀ c ∈ cs, policy.keeps d c = true → d'.children c = d.children c
  tree : ∀ c ∈ cs, policy.keeps d c = true → ∃ marked,
    d'.tree c = (d.tree c).mapAttributes (policy.keptAttributes marked (d.tree c).kind)
  gone : ∀ c ∈ cs, policy.keeps d c = false → ∀ m, d.Below m c → d'.contains m = false
  trees : (cs.filter (policy.keeps d)).map d'.tree =
    markFrom marked ((cs.map d.tree).filterMap policy.keepTree?)

/-- A child without an issue is gathered by changing its attributes. -/
theorem ChildrenGathered.of_kept {marked : Bool} (h : d.WellFormed) (hc : d.Loose c)
    (hk : d.kind? c = some k) (hissue : policy.sourceIssue? k = none) :
    ChildrenGathered policy d (d.mapKind c (·.mapAttributes (policy.keptAttributes marked k)))
      marked [c] := by
  have hkeep : policy.keeps d c = true := by rw [Policy.keeps, hk, Option.bind_some, hissue]; rfl
  have htree := Document.tree_kind h hk
  exact {
    wellFormed := h.mapAttributes hc.contains _
    size_eq := Document.size_mapKind _
    same m hm := by
      refine Document.sameAt_mapKind (fun heq => ?_) _
      exact hm c List.mem_cons_self (heq ▸ Document.below_refl d m)
    loose x hx _ := by
      obtain rfl := List.mem_singleton.mp hx
      exact ⟨hc.ne_root, by rw [Document.contains_mapKind, hc.contains],
        by rw [Document.parent?_mapKind, hc.detached]⟩
    same_below x hx _ m _ hmx := Document.sameAt_mapKind (List.mem_singleton.mp hx ▸ hmx) _
    children x hx _ := Document.children_mapKind _
    tree x hx _ := by
      obtain rfl := List.mem_singleton.mp hx
      exact ⟨marked, by rw [Document.tree_mapAttributes h hc.contains, htree, Tree.kind]⟩
    gone x hx hgone := by
      rw [List.mem_singleton.mp hx, hkeep] at hgone
      exact Bool.noConfusion hgone
    trees := by
      have hmark := isFallbackContent_mapAttributes k (policy.sourceAttributes k)
      rw [List.filter_cons_of_pos hkeep, List.filter_nil, List.map_singleton, List.map_singleton,
        Document.tree_mapAttributes h hc.contains, htree, Tree.mapAttributes]
      simp only [List.filterMap_cons, List.filterMap_nil, keepTree?_eq, Tree.kind, hissue, if_pos]
      rw [Tree.mapAttributes, markFrom, markFrom, Tree.mapAttributes, Tree.kind,
        NodeKind.mapAttributes_mapAttributes, Policy.keptAttributes]
      simp [markAttributes] }

/-- A rejected source is gathered by discarding it with all that is below it. -/
theorem ChildrenGathered.of_rejected {marked : Bool} {issue : Issue} (h : d.WellFormed)
    (hc : d.Loose c) (hk : d.kind? c = some k) (hissue : policy.sourceIssue? k = some issue) :
    ChildrenGathered policy d (d.without c) marked [c] := by
  have hdrop : policy.keeps d c = false := by rw [Policy.keeps, hk, Option.bind_some, hissue]; rfl
  have hstays : ∀ x ∈ [c], policy.keeps d x ≠ true := by
    intro x hx
    rw [List.mem_singleton.mp hx, hdrop]
    exact Bool.false_ne_true
  exact {
    wellFormed := h.without hc.ne_root hc.contains
    size_eq := Document.size_without
    same m hm := Document.sameAt_without h (hm c List.mem_cons_self) (by simp [hc.detached])
    loose x hx hkeep := absurd hkeep (hstays x hx)
    same_below x hx hkeep := absurd hkeep (hstays x hx)
    children x hx hkeep := absurd hkeep (hstays x hx)
    tree x hx hkeep := absurd hkeep (hstays x hx)
    gone x hx _ m hm := Document.not_contains_without h (List.mem_singleton.mp hx ▸ hm)
    trees := by
      rw [List.filter_cons_of_neg (by simp [hdrop]), List.map_singleton, Document.tree_kind h hk]
      simp [keepTree?_eq, Tree.kind, hissue, markFrom] }

/-- What gathering one child comes to. -/
theorem run_gatherChild (policy : Policy) (g : Gathered) (h : d.WellFormed) (hc : d.Loose c) :
    ∃ d', (policy.gatherChild g c).run d = .ok (policy.gatheredAt d g c) d' ∧
      ChildrenGathered policy d d' g.marked [c] := by
  obtain ⟨k, hk⟩ := Document.exists_kind? hc.contains
  rw [Policy.gatheredAt, hk, Option.getD_some]
  cases hissue : policy.sourceIssue? k with
  | none => exact ⟨_, run_gatherChild_kept hk hissue, .of_kept h hc hk hissue⟩
  | some issue =>
    exact ⟨_, run_gatherChild_rejected h hc hk hissue, .of_rejected h hc hk hissue⟩

/-- Whether a mark has been set after some trees. -/
theorem markFrom_append (marked : Bool) (ts us : List Tree) :
    markFrom marked (ts ++ us) =
      markFrom marked ts ++ markFrom (marked || ts.any (isFallbackContent ·.kind)) us := by
  induction ts generalizing marked with
  | nil => simp [markFrom]
  | cons t rest ih =>
    rw [List.cons_append, markFrom, markFrom, ih, List.cons_append, List.any_cons, Bool.or_assoc]

/-- The mark that is known to be there is the one on the trees. -/
theorem marked_gatheredAt (h : d.WellFormed) (hc : d.Loose c) :
    (policy.gatheredAt d g c).marked =
      (g.marked || (([c].map d.tree).filterMap policy.keepTree?).any
        (isFallbackContent ·.kind)) := by
  obtain ⟨k, hk⟩ := Document.exists_kind? hc.contains
  rw [Policy.gatheredAt, hk, Option.getD_some, Policy.gathered, List.map_singleton,
    Document.tree_kind h hk]
  cases hissue : policy.sourceIssue? k with
  | none => simp [keepTree?_eq, Tree.kind, hissue, Tree.mapAttributes]
  | some issue => simp [keepTree?_eq, Tree.kind, hissue]

namespace ChildrenGathered

variable {d₁ : Document} {marked marked' : Bool} {cs : List NodeId}

/-- Without children there is nothing to gather. -/
theorem nil (h : d.WellFormed) : ChildrenGathered policy d d marked [] where
  wellFormed := h
  size_eq := rfl
  same _ _ := rfl
  loose _ hc := absurd hc List.not_mem_nil
  same_below _ hc := absurd hc List.not_mem_nil
  children _ hc := absurd hc List.not_mem_nil
  tree _ hc := absurd hc List.not_mem_nil
  gone _ hc := absurd hc List.not_mem_nil
  trees := rfl

/-- A node that has been gathered is detached, or it is gone. -/
theorem detached (h : ChildrenGathered policy d d' marked cs) (hc : c ∈ cs) :
    d'.parent? c = none := by
  cases hkeep : policy.keeps d c with
  | true => exact (h.loose c hc hkeep).detached
  | false =>
    exact Document.parent?_eq_none_of_not_contains (h.gone c hc hkeep c (Document.below_refl d c))

/-! One node `c` is gathered first. The others have nothing to do with it. -/

section Cons

variable {x : NodeId} (h : ChildrenGathered policy d d₁ marked [c]) (hc : d.Loose c)
  (hx : d.Loose x) (hne : x ≠ c)
include h hc hx hne

/-- Nothing that is below another node takes part when `c` is gathered. -/
theorem same_other (hm : d.Below m x) : SameAt d d₁ m := by
  refine h.same m fun y hy => ?_
  rw [List.mem_singleton.mp hy]
  exact hm.not_below_of_detached hx.detached hc.detached hne

/-- Another loose node stays loose. -/
theorem loose_other : d₁.Loose x :=
  hx.of_sameAt (h.same_other hc hx hne (Document.below_refl d x))

/-- Whether another loose node is kept is not changed. -/
theorem keeps_other : policy.keeps d₁ x = policy.keeps d x := by
  rw [Policy.keeps, (h.same_other hc hx hne (Document.below_refl d x)).kind?, Policy.keeps]

/-- What is below another loose node is not changed. -/
theorem below_other_iff (hwf : d.WellFormed) : d₁.Below m x ↔ d.Below m x :=
  Document.below_iff_of_same hwf h.wellFormed fun _ hm => h.same_other hc hx hne hm

/-- The tree of another loose node is not changed. -/
theorem tree_other (hwf : d.WellFormed) : d₁.tree x = d.tree x :=
  Document.tree_eq_of_same hwf h.wellFormed fun _ hm => h.same_other hc hx hne hm

end Cons

/-- What has been left of the tree of `c` takes no part when the others are gathered. -/
theorem same_later (h : ChildrenGathered policy d d₁ marked [c])
    (h' : ChildrenGathered policy d₁ d' marked' cs) (hcs : ∀ x ∈ cs, d₁.Loose x) (hmem : c ∉ cs)
    (hm : d₁.Below m c) : SameAt d₁ d' m :=
  h'.same m fun x hx => hm.not_below_of_detached (h.detached List.mem_cons_self)
    (hcs x hx).detached fun heq => hmem (heq ▸ hx)

/-- The trees that stay are that of `c`, if it does, and those of the others. -/
theorem trees_cons (h : ChildrenGathered policy d d₁ marked [c])
    (h' : ChildrenGathered policy d₁ d' marked' cs)
    (hkeeps : ∀ x ∈ cs, policy.keeps d₁ x = policy.keeps d x)
    (htree : ∀ x ∈ cs, d₁.tree x = d.tree x) (hself : d'.tree c = d₁.tree c)
    (hmarked : marked' = (marked || (([c].map d.tree).filterMap policy.keepTree?).any
      (isFallbackContent ·.kind))) :
    ((c :: cs).filter (policy.keeps d)).map d'.tree =
      markFrom marked (((c :: cs).map d.tree).filterMap policy.keepTree?) := by
  have hfilter : cs.filter (policy.keeps d) = cs.filter (policy.keeps d₁) :=
    List.filter_congr fun x hx => (hkeeps x hx).symm
  have hmap : cs.map d.tree = cs.map d₁.tree := List.map_congr_left fun x hx => (htree x hx).symm
  have hhead : ([c].filter (policy.keeps d)).map d'.tree =
      ([c].filter (policy.keeps d)).map d₁.tree := by
    refine List.map_congr_left fun x hx => ?_
    rw [List.mem_singleton.mp (List.mem_filter.mp hx).1, hself]
  rw [← List.singleton_append, List.filter_append, List.map_append, List.map_append,
    List.filterMap_append, markFrom_append, hhead, h.trees, hfilter, h'.trees, hmarked, hmap]

/-- One node first and then the others. -/
theorem cons (hwf : d.WellFormed) (hc : d.Loose c) (hcs : ∀ x ∈ cs, d.Loose x) (hmem : c ∉ cs)
    (h : ChildrenGathered policy d d₁ marked [c]) (h' : ChildrenGathered policy d₁ d' marked' cs)
    (hmarked : marked' = (marked || (([c].map d.tree).filterMap policy.keepTree?).any
      (isFallbackContent ·.kind))) :
    ChildrenGathered policy d d' marked (c :: cs) := by
  have hne : ∀ x ∈ cs, x ≠ c := fun x hx heq => hmem (heq ▸ hx)
  have hkeeps : ∀ x ∈ cs, policy.keeps d₁ x = policy.keeps d x := fun x hx =>
    h.keeps_other hc (hcs x hx) (hne x hx)
  have hbelow : ∀ x ∈ cs, ∀ m, d₁.Below m x ↔ d.Below m x := fun x hx m =>
    h.below_other_iff hc (hcs x hx) (hne x hx) hwf
  have htree : ∀ x ∈ cs, d₁.tree x = d.tree x := fun x hx =>
    h.tree_other hc (hcs x hx) (hne x hx) hwf
  have hlater : ∀ m, d₁.Below m c → SameAt d₁ d' m := fun m =>
    h.same_later h' (fun x hx => h.loose_other hc (hcs x hx) (hne x hx)) hmem
  have hself : SameAt d₁ d' c := hlater c (Document.below_refl d₁ c)
  have htreeC : d'.tree c = d₁.tree c := Document.tree_eq_of_same h.wellFormed h'.wellFormed hlater
  exact {
    wellFormed := h'.wellFormed
    size_eq := h'.size_eq.trans h.size_eq
    same m hm := by
      refine (h.same m fun x hx => ?_).trans (h'.same m fun x hx hmx => ?_)
      · exact hm x (List.mem_singleton.mp hx ▸ List.mem_cons_self)
      · exact hm x (List.mem_cons_of_mem _ hx) ((hbelow x hx m).mp hmx)
    loose x hx hkeep := by
      rcases List.mem_cons.mp hx with rfl | hx
      · exact (h.loose x List.mem_cons_self hkeep).of_sameAt hself
      · exact h'.loose x hx ((hkeeps x hx).trans hkeep)
    same_below x hx hkeep m hm hmx := by
      rcases List.mem_cons.mp hx with rfl | hx
      · -- What is below the first node is not below another one, before and after its step.
        refine (h.same_below x List.mem_cons_self hkeep m hm hmx).trans
          (h'.same m fun y hy hmy => ?_)
        exact hm.not_below_of_detached hc.detached (hcs y hy).detached (Ne.symm (hne y hy))
          ((hbelow y hy m).mp hmy)
      · exact (h.same_other hc (hcs x hx) (hne x hx) hm).trans
          (h'.same_below x hx ((hkeeps x hx).trans hkeep) m ((hbelow x hx m).mpr hm) hmx)
    children x hx hkeep := by
      rcases List.mem_cons.mp hx with rfl | hx
      · rw [hself.children, h.children x List.mem_cons_self hkeep]
      · rw [h'.children x hx ((hkeeps x hx).trans hkeep),
          (h.same_other hc (hcs x hx) (hne x hx) (Document.below_refl d x)).children]
    tree x hx hkeep := by
      rcases List.mem_cons.mp hx with rfl | hx
      · rw [htreeC]
        exact h.tree x List.mem_cons_self hkeep
      · rw [← htree x hx]
        exact h'.tree x hx ((hkeeps x hx).trans hkeep)
    gone x hx hdrop m hm := by
      rcases List.mem_cons.mp hx with rfl | hx
      · -- Nothing is done to a node that is gone already.
        have hgone := h.gone x List.mem_cons_self hdrop m hm
        refine (h'.same m fun y hy hmy => ?_).contains.trans hgone
        have hlive := hmy.contains_lower (h.loose_other hc (hcs y hy) (hne y hy)).contains
        exact Document.ne_of_contains hgone hlive rfl
      · exact h'.gone x hx ((hkeeps x hx).trans hdrop) m ((hbelow x hx m).mpr hm)
    trees := h.trees_cons h' hkeeps htree htreeC hmarked }

end ChildrenGathered

/-- Gathering loose nodes never fails. -/
theorem run_gatherChildren {cs : List NodeId} (policy : Policy) (g : Gathered) (h : d.WellFormed)
    (hcs : ∀ c ∈ cs, d.Loose c) (hnd : cs.Nodup) :
    ∃ d', (cs.foldlM policy.gatherChild g).run d = .ok (cs.foldl (policy.gatheredAt d) g) d' ∧
      ChildrenGathered policy d d' g.marked cs := by
  induction cs generalizing d g with
  | nil => exact ⟨d, rfl, .nil h⟩
  | cons c rest ih =>
    obtain ⟨hmem, hnd⟩ := List.nodup_cons.mp hnd
    have hc := hcs c List.mem_cons_self
    have hrest : ∀ x ∈ rest, d.Loose x := fun x hx => hcs x (List.mem_cons_of_mem _ hx)
    obtain ⟨d₁, hrun₁, hd₁⟩ := run_gatherChild policy g h hc
    -- The other nodes are as they were, so they are judged as at first.
    have hself : ∀ x ∈ rest, SameAt d d₁ x := fun x hx =>
      hd₁.same_other hc (hrest x hx) (fun heq => hmem (heq ▸ hx)) (Document.below_refl d x)
    obtain ⟨d', hrun, hd'⟩ := ih (policy.gatheredAt d g c) hd₁.wellFormed
      (fun x hx => (hrest x hx).of_sameAt (hself x hx)) hnd
    refine ⟨d', ?_, .cons h hc hrest hmem hd₁ hd' (marked_gatheredAt h hc)⟩
    rw [List.foldlM_cons, Edit.run_bind_ok hrun₁, hrun, List.foldl_cons]
    congr 1
    refine List.foldl_ext _ _ _ fun g x hx => ?_
    rw [Policy.gatheredAt, (hself x hx).kind?, Policy.gatheredAt]

/-! ### What is known at the end -/

/-- A child that is not live counts as one that is no source. -/
theorem sourceIssue?_getD (d : Document) (c : NodeId) :
    policy.sourceIssue? ((d.kind? c).getD .document) = (d.kind? c).bind policy.sourceIssue? := by
  cases d.kind? c <;> rfl

/-- A child that is not live has no URL to use, as one that is no source. -/
theorem usableUrl?_getD (d : Document) (c : NodeId) :
    (policy.usableUrl? ((d.kind? c).getD .document)).isSome =
      (d.kind? c).any fun k => (policy.usableUrl? k).isSome := by
  cases d.kind? c <;> rfl

/-- A source with an issue has no URL to use. -/
theorem usableUrl?_eq_none_of_issue {issue : Issue} (h : policy.sourceIssue? k = some issue) :
    policy.usableUrl? k = none := by
  rw [Policy.sourceIssue?, Option.bind_eq_some_iff] at h
  obtain ⟨src, hsrc, h⟩ := h
  rw [Policy.usableUrl?, hsrc, Option.bind_some]
  cases hcheck : policy.checkUrl .alternateSource src with
  | ok url => simp [hcheck] at h
  | error rejection => rfl

/-- The children that are kept are added in the order in which they are gathered. -/
theorem kept_foldl_gatheredAt (cs : List NodeId) :
    (cs.foldl (policy.gatheredAt d) g).kept = g.kept ++ cs.filter (policy.keeps d) := by
  induction cs generalizing g with
  | nil => simp
  | cons c rest ih =>
    rw [List.foldl_cons, ih, Policy.gatheredAt, Policy.gathered, sourceIssue?_getD,
      List.filter_cons, Policy.keeps]
    cases (d.kind? c).bind policy.sourceIssue? <;> simp

/-- The issues of the children are added in the order in which they are gathered. -/
theorem issues_foldl_gatheredAt (cs : List NodeId) :
    (cs.foldl (policy.gatheredAt d) g).issues =
      g.issues ++ cs.filterMap fun c => (d.kind? c).bind policy.sourceIssue? := by
  induction cs generalizing g with
  | nil => simp
  | cons c rest ih =>
    rw [List.foldl_cons, ih, Policy.gatheredAt, Policy.gathered, sourceIssue?_getD,
      List.filterMap_cons]
    cases (d.kind? c).bind policy.sourceIssue? <;> simp

/-- Every usable source counts. -/
theorem sources_foldl_gatheredAt (cs : List NodeId) :
    (cs.foldl (policy.gatheredAt d) g).sources =
      g.sources +
        cs.countP fun c => (d.kind? c).any fun k => (policy.usableUrl? k).isSome := by
  induction cs generalizing g with
  | nil => simp
  | cons c rest ih =>
    rw [List.foldl_cons, ih, Policy.gatheredAt, Policy.gathered, List.countP_cons,
      ← usableUrl?_getD d c]
    cases hissue : policy.sourceIssue? ((d.kind? c).getD .document) with
    | none =>
      dsimp only
      omega
    | some issue => simp [usableUrl?_eq_none_of_issue hissue]

/-- The attributes are filtered again with every usable source, which changes nothing if they are
    what the filter makes of them. -/
theorem attributes_foldl_gatheredAt (hfix : policy.filter audioRules g.attributes = g.attributes)
    (cs : List NodeId) : (cs.foldl (policy.gatheredAt d) g).attributes = g.attributes := by
  induction cs generalizing g with
  | nil => rfl
  | cons c rest ih =>
    have hstep : (policy.gatheredAt d g c).attributes = g.attributes := by
      rw [Policy.gatheredAt, Policy.gathered]
      cases policy.sourceIssue? ((d.kind? c).getD .document) with
      | none =>
        dsimp only
        rw [hfix, ite_self]
      | some issue => rfl
    rw [List.foldl_cons, ih (by rw [hstep, hfix]), hstep]

end Conversion

end AmpMarkup
