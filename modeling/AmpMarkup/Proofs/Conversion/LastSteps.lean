import AmpMarkup.Proofs.Conversion.Replacement

namespace AmpMarkup

open Document (root WellFormed Loose SameAt)

/-!
# The last steps of a conversion

When the children of an audio element have been gathered, they are discarded with the element, or
they go to its replacement. Neither fails, and neither touches anything that is not below the
element, apart from its parent.

* `Opened` — the document when the children have been gathered; `Closed` — what the last steps make
  of it.
* `Moved` — what has been put under the replacement is as it was.
* `run_removeElement` — the end without a usable source.
* `Filled`, `run_fill` — the new node and the fallback have their children; `run_place`,
  `run_replaceElement` — the end with a usable source.
-/

variable {d d' : Document} {m n p c f : NodeId} {cs R : List NodeId}

namespace Document

/-- What was outside of some trees is outside of them after changes inside. -/
theorem not_below_of_same (hsame : ∀ m, (∀ c ∈ cs, ¬ d.Below m c) → SameAt d d' m)
    (hm : ∀ c ∈ cs, ¬ d.Below m c) : ∀ c ∈ cs, ¬ d'.Below m c := by
  -- Going up from outside one stays outside, and the parent links there are the old ones.
  have key : ∀ x, d'.Below m x → ∀ c ∈ cs, ¬ d.Below x c := by
    intro x hx
    induction hx with
    | refl => exact hm
    | @tail x y _ hxy ih =>
      intro c hc hyc
      have hpar : d.parent? x = some y := (hsame x ih).parent?.symm.trans hxy
      exact ih c hc ((below_of_parent hpar).trans hyc)
  exact fun c hc hmc => key c hmc c hc (below_refl d c)

end Document

namespace Conversion

open Edit

/-! ### Before and after -/

/-- `n`, below `p` and connected, and its fallback `f` have no children, and the nodes `cs` that
    stay hang nowhere. -/
structure Opened (d : Document) (n p f : NodeId) (cs : List NodeId) : Prop where
  wellFormed : d.WellFormed
  parent : d.parent? n = some p
  connected : d.Below p root
  bare : d.children n = []
  fallback : d.Loose f
  bare_fallback : d.children f = []
  loose : ∀ c ∈ cs, d.Loose c
  ne_fallback : ∀ c ∈ cs, c ≠ f
  nodup : cs.Nodup

/-- The nodes `R` have been put in the place of `n`, and `n`, `f` and the trees of `cs` have been
    used up. -/
structure Closed (d d' : Document) (n p f : NodeId) (cs R : List NodeId) : Prop where
  wellFormed : d'.WellFormed
  size_le : d.size ≤ d'.size
  same (m : NodeId) : m.index < d.size → m ≠ n → m ≠ p → m ≠ f → (∀ c ∈ cs, ¬ d.Below m c) →
    SameAt d d' m
  kind_parent : d'.kind? p = d.kind? p
  parent_parent : d'.parent? p = d.parent? p
  children_parent : d'.children p = substitute n R (d.children p)
  gone : d'.contains n = false
  fresh : ∀ r ∈ R, d.size ≤ r.index
  /-- Neither the fallback nor anything new is left over. -/
  attached (m : NodeId) : m = f ∨ d.size ≤ m.index → d'.contains m = true →
    ∃ q, d'.parent? m = some q

/-- The trees of the nodes `cs` have been put under `r` as they are. -/
structure Moved (d d' : Document) (r : NodeId) (cs : List NodeId) : Prop where
  parent : ∀ c ∈ cs, d'.parent? c = some r
  same : ∀ c ∈ cs, ∀ m, d.Below m c → m ≠ c → SameAt d d' m
  children : ∀ c ∈ cs, d'.children c = d.children c
  tree : ∀ c ∈ cs, d'.tree c = d.tree c

namespace Opened

/-- The element is not its own parent. -/
theorem ne_parent (h : Opened d n p f cs) : n ≠ p := (h.wellFormed.parent_ne h.parent).symm

/-- The element is connected, as its parent is. -/
theorem connected_node (h : Opened d n p f cs) : d.Below n root :=
  (Document.below_of_parent h.parent).trans h.connected

/-- The element is live, since it has a parent. -/
theorem contains (h : Opened d n p f cs) : d.contains n = true :=
  Document.contains_of_parent? h.parent

/-- No connected node is in the tree of a node that stays. -/
theorem outside (h : Opened d n p f cs) (hm : d.Below m root) : ∀ c ∈ cs, ¬ d.Below m c :=
  fun c hc => (h.loose c hc).not_below_of_connected h.wellFormed hm

/-! The nodes that stay, and the fallback. -/

/-- The nodes that stay are loose, and so is the fallback. -/
theorem loose_all (h : Opened d n p f cs) : ∀ c ∈ cs ++ [f], d.Loose c := by
  intro c hc
  rcases List.mem_append.mp hc with hc | hc
  · exact h.loose c hc
  · exact List.mem_singleton.mp hc ▸ h.fallback

/-- The fallback is none of the nodes that stay, and none of these comes twice. -/
theorem nodup_all (h : Opened d n p f cs) : (cs ++ [f]).Nodup :=
  List.nodup_append.mpr ⟨h.nodup, List.nodup_singleton f, fun c hc _ hf heq =>
    h.ne_fallback c hc (heq.trans (List.mem_singleton.mp hf))⟩

/-- No connected node is in the tree of any of them. -/
theorem outside_all (h : Opened d n p f cs) (hm : d.Below m root) :
    ∀ c ∈ cs ++ [f], ¬ d.Below m c :=
  fun c hc => (h.loose_all c hc).not_below_of_connected h.wellFormed hm

/-- The fallback is alone in its tree. -/
theorem outside_all_of_ne (h : Opened d n p f cs) (hmf : m ≠ f) (hm : ∀ c ∈ cs, ¬ d.Below m c) :
    ∀ c ∈ cs ++ [f], ¬ d.Below m c := by
  intro c hc hmc
  rcases List.mem_append.mp hc with hc | hc
  · exact hm c hc hmc
  · rw [List.mem_singleton.mp hc] at hmc
    exact hmf (Document.eq_of_below_bare h.wellFormed h.bare_fallback hmc)

end Opened

/-- What was gone before the last steps is gone after them. -/
theorem Closed.not_contains (h : Closed d d' n p f cs R) (ho : Opened d n p f cs)
    (hlt : m.index < d.size) (hm : d.contains m = false) : d'.contains m = false := by
  have hne : ∀ {x}, d.contains x = true → m ≠ x := Document.ne_of_contains hm
  rw [(h.same m hlt (hne ho.contains) (hne (ho.wellFormed.contains_parent ho.parent))
    (hne ho.fallback.contains) fun c hc hmc => ?_).contains, hm]
  exact hne (hmc.contains_lower (ho.loose c hc).contains) rfl

/-! ### Without a usable source -/

/-- A node without children is discarded alone. -/
theorem sameAt_without_bare (h : d.WellFormed) (hbare : d.children n = []) (hm : m ≠ n)
    (hp : d.parent? n ≠ some m) : SameAt d (d.without n) m :=
  Document.sameAt_without h (fun hb => hm (Document.eq_of_below_bare h hbare hb)) hp

/-- Nothing else shows that a loose node without children has been discarded. -/
theorem tree_without_bare (h : d.WellFormed) (hn : d.Loose n) (hbare : d.children n = [])
    (hm : m ≠ n) : (d.without n).tree m = d.tree m := by
  refine Document.tree_eq_of_same h (h.without hn.ne_root hn.contains) fun x hx => ?_
  refine sameAt_without_bare h hbare ?_ (by simp [hn.detached])
  rintro rfl
  exact hn.not_below (Ne.symm hm) hx

/-- The nodes that stay and the fallback, and the element after them, have been discarded. -/
theorem Opened.closed_without {d₁ : Document} (h : Opened d n p f cs)
    (h₁ : Document.AllDiscarded d d₁ (cs ++ [f])) : Closed d (d₁.without n) n p f cs [] := by
  have hn : SameAt d d₁ n := h₁.same n (h.outside_all h.connected_node)
  have hp : SameAt d d₁ p := h₁.same p (h.outside_all h.connected)
  have hbare : d₁.children n = [] := hn.children.trans h.bare
  have hpar : d₁.parent? n = some p := hn.parent?.trans h.parent
  have hcon : d₁.contains n = true := hn.contains.trans h.contains
  -- The element leaves the list of its parent.
  have hcut : SameAt (d₁.cutOff n) (d₁.without n) p :=
    Document.sameAt_cutOff_without h₁.wellFormed (h₁.wellFormed.not_below_of_parent hpar)
  have hsize : (d₁.without n).size = d.size := Document.size_without.trans h₁.size_eq
  exact {
    wellFormed := h₁.wellFormed.without (h.wellFormed.ne_root_of_parent h.parent) hcon
    size_le := Nat.le_of_eq hsize.symm
    same m _ hmn hmp hmf hmc := by
      refine (h₁.same m (h.outside_all_of_ne hmf hmc)).trans
        (sameAt_without_bare h₁.wellFormed hbare hmn ?_)
      rw [hpar]
      simpa using Ne.symm hmp
    kind_parent := by rw [hcut.kind?, Document.kind?_cutOff, hp.kind?]
    parent_parent := by
      rw [hcut.parent?, Document.parent?_cutOff, if_neg (Ne.symm h.ne_parent), hp.parent?]
    children_parent := by
      rw [hcut.children, Document.children_cutOff h₁.wellFormed, hp.children, filter_eq_substitute]
    gone := Document.not_contains_without h₁.wellFormed (Document.below_refl d₁ n)
    fresh r hr := absurd hr List.not_mem_nil
    attached m hm hlive := by
      -- The fallback is gone, and nothing is new.
      rcases hm with rfl | hm
      · have hgone := h₁.gone m (List.mem_append_right _ List.mem_cons_self) m
          (Document.below_refl d m)
        rw [Document.contains_without h₁.wellFormed, hgone] at hlive
        exact absurd hlive.1 Bool.false_ne_true
      · have hlt := Document.index_lt_of_contains hlive
        rw [hsize] at hlt
        exact absurd hlt (Nat.not_lt.mpr hm) }

/-- Without a usable source the element goes, with all that has been gathered. -/
theorem run_removeElement {g : Gathered} (h : Opened d n p f g.kept) :
    ∃ d', (removeElement n f g).run d =
        .ok (.removed, g.issues ++ [⟨audioTag, .noValidSource⟩]) d' ∧
      Closed d d' n p f g.kept [] ∧ ∀ c ∈ g.kept, ∀ m, d.Below m c → d'.contains m = false := by
  -- The children that were to stay are discarded, then the fallback, and then the element itself.
  obtain ⟨d₁, hrun, h₁⟩ := run_discardAll h.wellFormed h.loose_all h.nodup_all
  have hn : SameAt d d₁ n := h₁.same n (h.outside_all h.connected_node)
  have hdiscard := run_discard h₁.wellFormed (h.wellFormed.ne_root_of_parent h.parent)
    (hn.contains.trans h.contains)
  rw [List.forM_eq_forM, List.forM_append] at hrun
  obtain ⟨_, d₀, hkept, hrest⟩ := run_bind_eq_ok hrun
  rw [List.forM_cons] at hrest
  obtain ⟨_, _, hfallback, hnil⟩ := run_bind_eq_ok hrest
  cases hnil
  refine ⟨d₁.without n, ?_, h.closed_without h₁, fun c hc m hm => ?_⟩
  · rw [removeElement, List.forM_eq_forM, run_bind_ok hkept, run_bind_ok hfallback,
      run_bind_ok hdiscard]
    rfl
  · rw [Bool.eq_false_iff, ne_eq, Document.contains_without h₁.wellFormed,
      h₁.gone c (List.mem_append_left _ hc) m hm]
    exact fun hlive => absurd hlive.1 Bool.false_ne_true

/-! ### With a usable source -/

/-- The new node `r` with the nodes `cs`, and the fallback `f` with copies of them. -/
structure Filled (d d' : Document) (f r : NodeId) (cs : List NodeId)
    (replacement fallback : NodeKind) : Prop where
  wellFormed : d'.WellFormed
  size_le : d.size ≤ d'.size
  same (m : NodeId) : m.index < d.size → m ≠ f → m ∉ cs → SameAt d d' m
  loose_replacement : d'.Loose r
  loose_fallback : d'.Loose f
  kind_replacement : d'.kind? r = some replacement
  kind_fallback : d'.kind? f = some fallback
  children_replacement : d'.children r = cs
  children (c : NodeId) : c ∈ cs → d'.children c = d.children c
  trees_replacement : cs.map d'.tree = cs.map d.tree
  trees_fallback : (d'.children f).map d'.tree = cs.map d.tree
  attached (m : NodeId) : d.size ≤ m.index → m ≠ r → d'.contains m = true →
    ∃ q, d'.parent? m = some q

section Fill

variable {k kf : NodeKind} {d₁ : Document} (h₁ : Adopted (d.push k) d₁ f d.nextId cs)
include h₁

/-- A new node has no children but those that have been put under it. -/
theorem Adopted.children_new : d₁.children d.nextId = cs := by
  rw [h₁.children_replacement, Document.children_push, Document.children_nextId, List.nil_append]

/-- The new node is of the kind it was created with. -/
theorem Adopted.kind_new : d₁.kind? d.nextId = some k := by
  have hlt : d.nextId.index < (d.push k).size := by
    rw [Document.size_push]
    exact Nat.lt_succ_self d.size
  rw [h₁.kind _ hlt, Document.kind?_nextId_push]

/-- The adoption leaves alone what was there before, apart from the fallback and the nodes that
    stay. -/
theorem Adopted.same_old (hm : m.index < d.size) (hmf : m ≠ f) (hmc : m ∉ cs) :
    SameAt d d₁ m := by
  refine (Document.sameAt_push hm k).trans (h₁.same m ?_ hmf (Document.ne_nextId_of_lt hm) hmc)
  rw [Document.size_push]
  omega

/-- Every node that was live before keeps its kind. -/
theorem Adopted.kind_old (hn : d.contains n = true) : d₁.kind? n = d.kind? n := by
  have hlt := Document.index_lt_of_contains hn
  rw [h₁.kind n (by rw [Document.size_push]; omega), (Document.sameAt_push hlt k).kind?]

/-- The trees of what has a parent do not have the fallback in them. -/
theorem Adopted.tree_mapAttributes {q : NodeId} (hc : d₁.parent? c = some q)
    (change : Attributes → Attributes) :
    (d₁.mapKind f (·.mapAttributes change)).tree c = d₁.tree c :=
  Document.tree_mapAttributes_of_not_below h₁.wellFormed h₁.loose_fallback.contains
    (fun hb => hb.not_loose hc h₁.loose_fallback) _

variable (h : Opened d n p f cs)
include h

/-- The fallback has had no children before, so it shows copies of the nodes that stay. -/
theorem Adopted.trees_fallback : (d₁.children f).map d₁.tree = cs.map d.tree := by
  obtain ⟨copies, hcopies, htrees⟩ := h₁.children_fallback
  rw [Document.children_push, h.bare_fallback, List.nil_append] at hcopies
  rw [hcopies, htrees]
  exact List.map_congr_left fun c hc => Document.tree_push h.wellFormed (h.loose c hc).contains k

/-- A new node with the nodes that stay; the attributes of the fallback have been changed last. -/
theorem Filled.of_adopted (hk : d.kind? f = some kf) (change : Attributes → Attributes) :
    Filled d (d₁.mapKind f (·.mapAttributes change)) f d.nextId cs k (kf.mapAttributes change) := by
  have hfr : d.nextId ≠ f := (Document.ne_nextId_of_contains h.fallback.contains).symm
  have hsame : ∀ {m}, m ≠ f → SameAt d₁ (d₁.mapKind f (·.mapAttributes change)) m :=
    fun hm => Document.sameAt_mapKind hm _
  exact {
    wellFormed := h₁.wellFormed.mapAttributes h₁.loose_fallback.contains change
    size_le := by
      have hle := h₁.size_le
      rw [Document.size_push] at hle
      rw [Document.size_mapKind]
      omega
    same m hm hmf hmc := (h₁.same_old hm hmf hmc).trans (hsame hmf)
    loose_replacement := h₁.loose_replacement.of_sameAt (hsame hfr)
    loose_fallback := ⟨h.fallback.ne_root,
      by rw [Document.contains_mapKind, h₁.loose_fallback.contains],
      by rw [Document.parent?_mapKind, h₁.loose_fallback.detached]⟩
    kind_replacement := by rw [(hsame hfr).kind?, h₁.kind_new]
    kind_fallback := by
      rw [Document.kind?_mapKind, if_pos rfl, h₁.kind_old h.fallback.contains, hk, Option.map_some]
    children_replacement := by rw [Document.children_mapKind, h₁.children_new]
    children c hc := by rw [Document.children_mapKind, h₁.children c hc, Document.children_push]
    trees_replacement := by
      refine List.map_congr_left fun c hc => ?_
      have hpar : d₁.parent? c = some d.nextId :=
        h₁.wellFormed.parent_of_mem (h₁.children_new.symm ▸ hc)
      rw [h₁.tree_mapAttributes hpar change, h₁.tree c hc,
        Document.tree_push h.wellFormed (h.loose c hc).contains]
    trees_fallback := by
      rw [Document.children_mapKind, ← h₁.trees_fallback h]
      exact List.map_congr_left fun x hx =>
        h₁.tree_mapAttributes (h₁.wellFormed.parent_of_mem hx) change
    attached m hm hmr hcon := by
      rw [Document.contains_mapKind] at hcon
      rw [Document.parent?_mapKind]
      have hne : m.index ≠ d.size := fun heq => hmr (congrArg NodeId.mk heq)
      exact h₁.attached m (by rw [Document.size_push]; omega) hcon }

end Fill

/-- The replacement is made, gets the children and passes its media attributes on. -/
theorem run_fill {b : Attributes} {tag : String} (attributes : Attributes) (h : Opened d n p f cs)
    (hk : d.kind? f = some (.element tag b)) :
    ∃ d₁ d', (cs.forM (adoptChild f d.nextId)).run
        (d.push (.ofElement replacementTag attributes)) = .ok () d₁ ∧
      (mediaAttributes.forM (matchAttribute d.nextId f)).run d₁ = .ok () d' ∧
      Filled d d' f d.nextId cs (.ofElement replacementTag attributes)
        (.element tag (matchMedia attributes b)) := by
  have hne : ∀ {m}, d.contains m = true → m ≠ d.nextId := Document.ne_nextId_of_contains
  have hsame : ∀ {m}, d.contains m = true →
      SameAt d (d.push (.ofElement replacementTag attributes)) m := fun hm =>
    Document.sameAt_push (Document.index_lt_of_contains hm) _
  obtain ⟨d₁, hrun, h₁⟩ := run_adoptChildren (h.wellFormed.push _) (h.fallback.push _)
    (Document.loose_nextId h.wellFormed (.ofElement replacementTag attributes))
    (hne h.fallback.contains) ((hsame h.fallback.contains).kind?.trans hk)
    (Document.kind?_nextId_push _) rfl rfl
    (fun c hc => ⟨(h.loose c hc).push _, h.ne_fallback c hc, hne (h.loose c hc).contains⟩) h.nodup
  exact ⟨d₁, _, hrun, run_matchMedia h₁.kind_new ((h₁.kind_old h.fallback.contains).trans hk)
    (hne h.fallback.contains), .of_adopted h₁ h hk _⟩

namespace Filled

variable {replacement fallback : NodeKind}

/-- What is connected has not been touched so far. -/
theorem sameAt_connected (hd' : Filled d d' f d.nextId cs replacement fallback)
    (h : Opened d n p f cs) (hm : d.Below m root) : SameAt d d' m := by
  have hcon : d.contains m = true := hm.contains_lower h.wellFormed.contains_root
  refine hd'.same m (Document.index_lt_of_contains hcon) ?_ fun hmem => ?_
  · rintro rfl
    exact h.fallback.not_below_of_connected h.wellFormed hm (Document.below_refl d m)
  · exact h.outside hm m hmem (Document.below_refl d m)

/-- The parent of the element is still connected. -/
theorem connected (hd' : Filled d d' f d.nextId cs replacement fallback) (h : Opened d n p f cs) :
    d'.Below p root :=
  h.connected.of_parents fun _ _ hm _ => (hd'.sameAt_connected h hm).parent?

/-- A node that stays is under the replacement now. -/
theorem parent_kept (hd' : Filled d d' f d.nextId cs replacement fallback) (hc : c ∈ cs) :
    d'.parent? c = some d.nextId :=
  hd'.wellFormed.parent_of_mem (hd'.children_replacement.symm ▸ hc)

/-- What is below a node that stays is not connected, not loose, and not one of those that are still
    to be dealt with. -/
theorem apart (hd' : Filled d d' f d.nextId cs replacement fallback) (h : Opened d n p f cs)
    (hc : c ∈ cs) (hm : d'.Below m c) :
    m.index < d'.size ∧ m ≠ n ∧ m ≠ p ∧ m ≠ d.nextId ∧ m ≠ f := by
  have hpar := hd'.parent_kept hc
  have hcon : d'.contains m = true := hm.contains_lower (Document.contains_of_parent? hpar)
  have hnroot : ¬ d'.Below m root := fun hroot =>
    hd'.loose_replacement.not_below_of_connected hd'.wellFormed hroot
      (hm.trans (Document.below_of_parent hpar))
  have hnloose : ¬ d'.Loose m := hm.not_loose hpar
  refine ⟨Document.index_lt_of_contains hcon, ?_, ?_, ?_, ?_⟩
  · rintro rfl
    have hm' : d'.parent? m = some p :=
      (hd'.sameAt_connected h h.connected_node).parent?.trans h.parent
    exact hnroot ((Document.below_of_parent hm').trans (hd'.connected h))
  · rintro rfl
    exact hnroot (hd'.connected h)
  · rintro rfl
    exact hnloose hd'.loose_replacement
  · rintro rfl
    exact hnloose hd'.loose_fallback

/-- Strictly below a node that stays nothing has been done. -/
theorem same_below (hd' : Filled d d' f d.nextId cs replacement fallback) (h : Opened d n p f cs)
    (hc : c ∈ cs) (hm : d.Below m c) (hmc : m ≠ c) : SameAt d d' m := by
  have hnloose : ¬ d.Loose m := fun hl => hl.not_below hmc hm
  have hlive : d.contains m = true := hm.contains_lower (h.loose c hc).contains
  refine hd'.same m (Document.index_lt_of_contains hlive) ?_ fun hmem => hnloose (h.loose m hmem)
  rintro rfl
  exact hnloose h.fallback

/-- What is done from now on to the element, to its parent, to the replacement and to the fallback
    does not touch what has been put under the replacement. -/
theorem moved (hd' : Filled d d' f d.nextId cs replacement fallback) (h : Opened d n p f cs)
    {e : Document} (hwf : e.WellFormed)
    (hsame : ∀ m, m.index < d'.size → m ≠ n → m ≠ p → m ≠ d.nextId → m ≠ f → SameAt d' e m) :
    Moved d e d.nextId cs := by
  have hout : ∀ c ∈ cs, ∀ m, d'.Below m c → SameAt d' e m := by
    intro c hc m hm
    obtain ⟨hlt, hmn, hmp, hmr, hmf⟩ := hd'.apart h hc hm
    exact hsame m hlt hmn hmp hmr hmf
  have htop : ∀ c ∈ cs, SameAt d' e c := fun c hc => hout c hc c (Document.below_refl d' c)
  exact {
    parent c hc := (htop c hc).parent?.trans (hd'.parent_kept hc)
    same c hc m hm hmc := by
      have hm' : d'.Below m c :=
        hm.of_parents fun x _ hx hxc => (hd'.same_below h hc hx hxc).parent?
      exact (hd'.same_below h hc hm hmc).trans (hout c hc m hm')
    children c hc := (htop c hc).children.trans (hd'.children c hc)
    tree c hc := by
      rw [Document.tree_eq_of_same hd'.wellFormed hwf (hout c hc),
        List.map_inj_left.mp hd'.trees_replacement c hc] }

end Filled

/-- Of what is new only the replacement was loose, and it has taken the place of the element. -/
theorem Wrapped.attached {e : Document} {replacement fallback : NodeKind}
    (hw : Wrapped d' e n p d.nextId f d'.nextId)
    (hd' : Filled d d' f d.nextId cs replacement fallback) (h : Opened d n p f cs)
    (hm : m = f ∨ d.size ≤ m.index) (hmn : m ≠ n) (hcon : e.contains m = true) :
    ∃ q, e.parent? m = some q := by
  have hmem : ∀ {q}, m ∈ e.children q → ∃ q, e.parent? m = some q := fun hq =>
    ⟨_, hw.wellFormed.parent_of_mem hq⟩
  by_cases hmf : m = f
  · refine hmem (q := d'.nextId) ?_
    rw [hw.children_island, hmf]
    exact List.mem_cons_self
  have hnew : d.size ≤ m.index := hm.resolve_left hmf
  by_cases hmr : m = d.nextId
  · refine hmem (q := p) ?_
    rw [hw.children_parent, (hd'.sameAt_connected h h.connected).children, mem_substitute]
    exact .inr ⟨hmr ▸ List.mem_cons_self, h.wellFormed.mem_children h.parent⟩
  by_cases hmi : m = d'.nextId
  · refine hmem (q := d.nextId) ?_
    rw [hw.children_replacement, hmi]
    exact List.mem_append_right _ List.mem_cons_self
  · have hlt : m.index < d'.size := by
      have hlt := Document.index_lt_of_contains hcon
      rw [hw.size_eq] at hlt
      have hne : m.index ≠ d'.size := fun heq => hmi (congrArg NodeId.mk heq)
      omega
    have hmp : m ≠ p := by
      rintro rfl
      have hold := Document.index_lt_of_contains (h.wellFormed.contains_parent h.parent)
      omega
    have hsame : SameAt d' e m := hw.same m hlt hmn hmp hmr hmf
    rw [hsame.parent?]
    exact hd'.attached m hnew hmr (hsame.contains ▸ hcon)

section Place

variable {replacement fallback : NodeKind} {d₁ : Document} (h : Opened d n p f cs)
  (hd' : Filled d d' f d.nextId cs replacement fallback)
  (hw : Wrapped d' d₁ n p d.nextId f d'.nextId)
include h hd' hw

/-- The element has no children, so nothing else goes when it is discarded. -/
theorem bare_wrapped : d₁.children n = [] := by
  have hn : SameAt d d' n := hd'.sameAt_connected h h.connected_node
  have hlt : n.index < d'.size := Document.index_lt_of_contains (hn.contains.trans h.contains)
  rw [hw.children n hlt h.ne_parent (Document.ne_nextId_of_contains h.contains), hn.children,
    h.bare]

/-- Discarding the element touches no other node, since it is bare and detached by now. -/
theorem same_wrapped (hm : m ≠ n) : SameAt d₁ (d₁.without n) m :=
  sameAt_without_bare hw.wellFormed (bare_wrapped h hd' hw) hm (by simp [hw.loose.detached])

/-- The replacement stands in the place of the element, which has been discarded. -/
theorem Closed.of_wrapped : Closed d (d₁.without n) n p f cs [d.nextId] := by
  have hp : SameAt d d' p := hd'.sameAt_connected h h.connected
  have hsameP : SameAt d₁ (d₁.without n) p := same_wrapped h hd' hw h.ne_parent.symm
  exact {
    wellFormed := hw.wellFormed.without hw.loose.ne_root hw.loose.contains
    size_le := by
      have hle := hd'.size_le
      rw [Document.size_without, hw.size_eq]
      omega
    same m hm hmn hmp hmf hmc := by
      have hmem : m ∉ cs := fun hmem => hmc m hmem (Document.below_refl d m)
      have hlt : m.index < d'.size := Nat.lt_of_lt_of_le hm hd'.size_le
      exact (hd'.same m hm hmf hmem).trans <|
        (hw.same m hlt hmn hmp (Document.ne_nextId_of_lt hm) hmf).trans (same_wrapped h hd' hw hmn)
    kind_parent := by
      have hcon : d'.contains p = true := hp.contains.trans (h.wellFormed.contains_parent h.parent)
      rw [hsameP.kind?, hw.kind p (Document.index_lt_of_contains hcon), hp.kind?]
    parent_parent := by rw [hsameP.parent?, hw.parent_parent, hp.parent?]
    children_parent := by rw [hsameP.children, hw.children_parent, hp.children]
    gone := Document.not_contains_without hw.wellFormed (Document.below_refl d₁ n)
    fresh r hr := List.mem_singleton.mp hr ▸ Nat.le_refl d.size
    attached m hm hcon := by
      obtain ⟨hcon, hb⟩ := (Document.contains_without hw.wellFormed).mp hcon
      have hmn : m ≠ n := by
        rintro rfl
        exact hb (Document.below_refl d₁ m)
      rw [(same_wrapped h hd' hw hmn).parent?]
      exact hw.attached hd' h hm hmn hcon }

/-- The replacement ends with an island. -/
theorem exists_island_wrapped : ∃ island, (d₁.without n).children d.nextId = cs ++ [island] ∧
    (d₁.without n).kind? island = some (.ofElement fallbackTag .empty) := by
  have hn : SameAt d d' n := hd'.sameAt_connected h h.connected_node
  have hrn : d.nextId ≠ n := (Document.ne_nextId_of_contains h.contains).symm
  have hin : d'.nextId ≠ n :=
    (Document.ne_nextId_of_contains (hn.contains.trans h.contains)).symm
  refine ⟨d'.nextId, ?_, ?_⟩
  · rw [(same_wrapped h hd' hw hrn).children, hw.children_replacement, hd'.children_replacement]
  · rw [(same_wrapped h hd' hw hin).kind?, hw.kind_island]

/-- The replacement shows what has stayed, and then an island around the fallback with the
    copies. -/
theorem tree_wrapped : (d₁.without n).tree d.nextId = .node replacement (cs.map d.tree ++
    [.node (.ofElement fallbackTag .empty) [.node fallback (cs.map d.tree)]]) := by
  have hrn : d.nextId ≠ n := (Document.ne_nextId_of_contains h.contains).symm
  rw [tree_without_bare hw.wellFormed hw.loose (bare_wrapped h hd' hw) hrn,
    hw.tree_replacement hd'.wellFormed (hd'.connected h) hd'.loose_replacement hd'.loose_fallback
      (Document.ne_nextId_of_contains h.fallback.contains) hd'.kind_replacement hd'.kind_fallback,
    hd'.children_replacement, hd'.trees_replacement, hd'.trees_fallback]

end Place

/-- Putting a filled replacement in the place of the element, and discarding the element. -/
theorem run_place {replacement fallback : NodeKind} (h : Opened d n p f cs)
    (hd' : Filled d d' f d.nextId cs replacement fallback)
    (hallows : replacement.allowsChildren = true) :
    ∃ d₁ d₂, (wrapWithFallback n d.nextId f).run d' = .ok d'.nextId d₁ ∧
      (discard n).run d₁ = .ok () d₂ ∧ Closed d d₂ n p f cs [d.nextId] ∧
      Moved d d₂ d.nextId cs ∧
      (∃ island, d₂.children d.nextId = cs ++ [island] ∧
        d₂.kind? island = some (.ofElement fallbackTag .empty)) ∧
      d₂.tree d.nextId = .node replacement (cs.map d.tree ++
        [.node (.ofElement fallbackTag .empty) [.node fallback (cs.map d.tree)]]) := by
  have hn : SameAt d d' n := hd'.sameAt_connected h h.connected_node
  obtain ⟨d₁, hrun, hw⟩ := run_wrapWithFallback hd'.wellFormed (hn.parent?.trans h.parent)
    (hd'.connected h) hd'.loose_replacement hd'.loose_fallback
    (Document.ne_nextId_of_contains h.fallback.contains) hd'.kind_replacement hallows
  have hclosed := Closed.of_wrapped h hd' hw
  have hmoved : Moved d (d₁.without n) d.nextId cs :=
    hd'.moved h hclosed.wellFormed fun m hm hmn hmp hmr hmf =>
      (hw.same m hm hmn hmp hmr hmf).trans (same_wrapped h hd' hw hmn)
  exact ⟨d₁, d₁.without n, hrun, run_discard hw.wellFormed hw.loose.ne_root hw.loose.contains,
    hclosed, hmoved, exists_island_wrapped h hd' hw, tree_wrapped h hd' hw⟩

/-- With a usable source the replacement takes the place of the element. -/
theorem run_replaceElement {g : Gathered} {b : Attributes} {tag : String}
    (attributes : Attributes) (h : Opened d n p f g.kept) (hk : d.kind? f = some (.element tag b)) :
    ∃ d', (replaceElement n f g attributes).run d = .ok (.replaced d.nextId, g.issues) d' ∧
      Closed d d' n p f g.kept [d.nextId] ∧ Moved d d' d.nextId g.kept ∧
      (∃ island, d'.children d.nextId = g.kept ++ [island] ∧
        d'.kind? island = some (.ofElement fallbackTag .empty)) ∧
      d'.tree d.nextId = .node (.ofElement replacementTag attributes) (g.kept.map d.tree ++
        [.node (.ofElement fallbackTag .empty)
          [.node (.element tag (matchMedia attributes b)) (g.kept.map d.tree)]]) := by
  obtain ⟨d₁, d₂, hadopt, hmatch, hfilled⟩ := run_fill attributes h hk
  obtain ⟨d₃, d₄, hwrap, hdiscard, hclosed, hmoved, hisland, htree⟩ := run_place h hfilled rfl
  refine ⟨d₄, ?_, hclosed, hmoved, hisland, htree⟩
  rw [replaceElement, createElement, run_bind_ok (run_create _), run_bind_ok hadopt,
    run_bind_ok hmatch, run_bind_ok hwrap, run_bind_ok hdiscard]
  rfl

end Conversion

end AmpMarkup
