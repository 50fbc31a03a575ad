import AmpMarkup.Proofs.Conversion.Visits

namespace AmpMarkup

open Document (root WellFormed SameAt)

/-!
# What a conversion leaves of the nodes inside

When an audio element is converted, what is below it goes to the replacement or is discarded. What
goes to the replacement shows the same tree as before, up to a mark, and nothing changes about which
of the nodes elsewhere are above it.

* `Policy.Engulfs d m x` — the conversion of `m` discards `x`.
* `SamePlace d d' n x x'` — the same nodes outside of `n` are above `x` and above `x'`.
* `Converted.engulfs_iff` — then the conversions of these nodes discard both or none.
* `Converted.survives` — what a conversion does to a node that has no element to be converted below
  it.
-/

variable {d d' : Document} {b m n p r x x' : NodeId} {R ns : List NodeId}

namespace Document

/-- Above a node that is below `n` stand the nodes above `n`, apart from those that are below it. -/
theorem Below.below_iff (h : d.Below x n) (hb : ¬ d.Below b n) : d.Below x b ↔ d.Below n b := by
  refine ⟨fun hx => ?_, h.trans⟩
  rcases h.total hx with hnb | hbn
  · exact hnb
  · exact absurd hbn hb

end Document

namespace Conversion

variable {policy : Policy} {outcome : Outcome}

/-! ### Discarded nodes -/

/-- The conversion of `m` discards `x`: either `m` is removed, with all that is below it, or `x` is
    below a rejected source among the children of `m`. -/
def Policy.Engulfs (policy : Policy) (d : Document) (m x : NodeId) : Prop :=
  (policy.verdict d m = .remove ∧ d.Below x m) ∨
    (policy.verdict d m ≠ .skip ∧ ∃ c ∈ d.children m, policy.keeps d c = false ∧ d.Below x c)

/-- The conversion of an element discards nothing but what is below it. -/
theorem Policy.Engulfs.below (h : policy.Engulfs d m x) (hwf : d.WellFormed) : d.Below x m := by
  rcases h with ⟨-, hx⟩ | ⟨-, c, hc, -, hx⟩
  · exact hx
  · exact Document.below_of_mem_children hwf hc hx

/-- The conversion of an element that is skipped discards nothing. -/
theorem not_engulfs_of_skip (h : policy.verdict d m = .skip) : ¬ policy.Engulfs d m x := by
  rintro (⟨hremove, -⟩ | ⟨hskip, -⟩)
  · rw [h] at hremove
    exact Verdict.noConfusion hremove
  · exact hskip h

/-- An element that is replaced does not discard itself. -/
theorem not_engulfs_self (hwf : d.WellFormed) (h : policy.verdict d m = .replace) :
    ¬ policy.Engulfs d m m := by
  rintro (⟨hremove, -⟩ | ⟨-, c, hc, -, hmc⟩)
  · rw [h] at hremove
    exact Verdict.noConfusion hremove
  · exact hwf.not_below_of_parent (hwf.parent_of_mem hc) hmc

/-! ### Places -/

/-- The same nodes outside of `n` are above `x` before and above `x'` after a change. -/
def SamePlace (d d' : Document) (n x x' : NodeId) : Prop :=
  ∀ b, d.contains b = true → ¬ d.Below b n → (d'.Below x' b ↔ d.Below x b)

namespace Substituted

/-- A node elsewhere is at its place. -/
theorem samePlace_outside (h : Substituted d d' n p R) (hwf : d.WellFormed)
    (hx : d.contains x = true) (hxn : ¬ d.Below x n) : SamePlace d d' n x x := by
  intro b _ _
  exact h.below_iff_outside hwf hx hxn

/-- An old node elsewhere is not below a new one. -/
theorem not_below_fresh (h : Substituted d d' n p R) (hwf : d.WellFormed)
    (hb : d.contains b = true) (hbn : ¬ d.Below b n) (hr : r ∈ R) : ¬ d'.Below b r := by
  intro hbr
  have hlive : d.contains r = true := ((h.below_iff_outside hwf hb hbn).mp hbr).contains hwf hb
  have hlt : r.index < d.size := Document.index_lt_of_contains hlive
  have hfresh : d.size ≤ r.index := h.fresh r hr
  omega

/-- What takes the place of the element is below its parent. -/
theorem parent_fresh (h : Substituted d d' n p R) (hwf : d.WellFormed)
    (hp : d.parent? n = some p) (hr : r ∈ R) : d'.parent? r = some p := by
  apply h.wellFormed.parent_of_mem
  rw [h.children_parent, mem_substitute]
  exact .inr ⟨hr, hwf.mem_children hp⟩

/-- What takes the place of a node is at its place. -/
theorem samePlace_fresh (h : Substituted d d' n p R) (hwf : d.WellFormed)
    (hp : d.parent? n = some p) (hr : r ∈ R) : SamePlace d d' n n r := by
  intro b hb hbn
  have hpar : d'.parent? r = some p := h.parent_fresh hwf hp hr
  -- Both are right below the parent, which is elsewhere.
  have hparent : d'.Below p b ↔ d.Below p b :=
    h.below_iff_outside hwf (hwf.contains_parent hp) (hwf.not_below_of_parent hp)
  constructor
  · intro hrb
    rcases hrb.cases_parent with rfl | ⟨q, hq, hqb⟩
    · exact absurd (Document.below_refl d' r) (h.not_below_fresh hwf hb hbn hr)
    · rw [hpar, Option.some.injEq] at hq
      exact (Document.below_of_parent hp).trans (hparent.mp (hq ▸ hqb))
  · intro hnb
    rcases hnb.cases_parent with rfl | ⟨q, hq, hqb⟩
    · exact absurd (Document.below_refl d n) hbn
    · rw [hp, Option.some.injEq] at hq
      exact (Document.below_of_parent hpar).trans (hparent.mpr (hq ▸ hqb))

/-- So is everything that was below the node and is below what takes its place. -/
theorem samePlace_inside (h : Substituted d d' n p R) (hwf : d.WellFormed)
    (hp : d.parent? n = some p) (hr : r ∈ R) (hxn : d.Below x n) (hxr : d'.Below x r) :
    SamePlace d d' n x x := by
  intro b hb hbn
  rw [hxr.below_iff (h.not_below_fresh hwf hb hbn hr), h.samePlace_fresh hwf hp hr b hb hbn,
    hxn.below_iff hbn]

end Substituted

namespace Converted

/-- Neither the converted element nor what takes its place is a rejected source. -/
theorem keeps_eq_true (h : Converted policy d d' n p R) :
    policy.keeps d n = true ∧ ∀ r ∈ R, policy.keeps d' r = true := by
  obtain ⟨hn, hR⟩ := h.bind_eq_none h.wellFormed (f := policy.sourceIssue?)
    fun k hk => sourceIssue?_eq_none hk
  refine ⟨?_, fun r hr => ?_⟩
  · rw [Policy.keeps, hn, Option.isNone_none]
  · rw [Policy.keeps, hR r hr, Option.isNone_none]

/-- Of the nodes at the same place, the conversion of an element elsewhere discards both or none. -/
theorem engulfs_iff (h : Converted policy d d' n p R) (hwf : d.WellFormed)
    (hm : d.contains m = true) (hmn : ¬ d.Below m n) (hx : SamePlace d d' n x x') :
    policy.Engulfs d' m x' ↔ policy.Engulfs d m x := by
  obtain ⟨hn, hR⟩ := h.keeps_eq_true
  -- The children of `m` are the same, up to `n` and what has taken its place.
  have hchild : ∀ c ∈ d.children m, c ≠ n →
      policy.keeps d' c = policy.keeps d c ∧ (d'.Below x' c ↔ d.Below x c) := by
    intro c hc hcn
    have hlive : d.contains c = true := hwf.contains_child hc
    have hout : ¬ d.Below c n := Document.not_below_of_child hwf hc hmn hcn
    refine ⟨?_, hx c hlive hout⟩
    rw [Policy.keeps, h.kind_outside hlive hout, Policy.keeps]
  have hsources : (∃ c ∈ d'.children m, policy.keeps d' c = false ∧ d'.Below x' c) ↔
      ∃ c ∈ d.children m, policy.keeps d c = false ∧ d.Below x c := by
    rw [h.children_outside hwf h.parent hm hmn]
    constructor
    · rintro ⟨c, hc, hdrop, hbelow⟩
      rcases mem_substitute.mp hc with ⟨hc, hcn⟩ | ⟨hcR, -⟩
      · obtain ⟨hkeeps, hiff⟩ := hchild c hc hcn
        exact ⟨c, hc, hkeeps ▸ hdrop, hiff.mp hbelow⟩
      · rw [hR c hcR] at hdrop
        exact Bool.noConfusion hdrop
    · rintro ⟨c, hc, hdrop, hbelow⟩
      have hcn : c ≠ n := by
        rintro rfl
        rw [hn] at hdrop
        exact Bool.noConfusion hdrop
      obtain ⟨hkeeps, hiff⟩ := hchild c hc hcn
      exact ⟨c, mem_substitute.mpr (.inl ⟨hc, hcn⟩), hkeeps.trans hdrop, hiff.mpr hbelow⟩
  rw [Policy.Engulfs, Policy.Engulfs, h.verdict_eq hwf hm hmn policy, hx m hm hmn, hsources]

/-! ### The nodes that are left -/

/-- Nothing changes below a node elsewhere that is not above the converted element. -/
theorem sameAt_apart (h : Converted policy d d' n p R) (hx : d.contains x = true)
    (hxn : ¬ d.Below x n) (hnx : ¬ d.Below n x) (hm : d.Below m x) : SameAt d d' m := by
  have hlt : m.index < d.size := Document.index_lt_of_contains (hm.contains_lower hx)
  refine h.same m hlt ?_ fun hmn => ?_
  · rintro rfl
    exact hnx ((Document.below_of_parent h.parent).trans hm)
  · rcases hm.total hmn with hxn' | hnx'
    · exact hxn hxn'
    · exact hnx hnx'

/-- The tree of a node away from the element is as it was. -/
theorem tree_outside (h : Converted policy d d' n p R) (hwf : d.WellFormed)
    (hx : d.contains x = true) (hxn : ¬ d.Below x n) (hnx : ¬ d.Below n x) :
    d'.tree x = d.tree x :=
  Document.tree_eq_of_same hwf h.wellFormed fun _ hm => h.sameAt_apart hx hxn hnx hm

end Converted

namespace Inherited

/-- What is below a child that stays gets below the replacement. -/
theorem below (h : Inherited policy d d' n r) {c : NodeId} (hc : c ∈ d.children n)
    (hkeep : policy.keeps d c = true) (hx : d.Below x c) : d'.Below x r := by
  have hxc : d'.Below x c := hx.of_parents fun m _ hm hmc =>
    (h.same_below c hc hkeep m hm hmc).parent?
  exact hxc.trans (Document.below_of_parent (h.parent c hc hkeep))

/-- What is not a source can only get a mark. -/
theorem tree_eq_or (h : Inherited policy d d' n r) (hwf : d.WellFormed) (hwf' : d'.WellFormed)
    {c : NodeId} (hc : c ∈ d.children n) (hkeep : policy.keeps d c = true) (hx : d.Below x c)
    (hsource : sourceUrl? (d.tree x).kind = none) :
    d'.tree x = d.tree x ∨ d'.tree x = (d.tree x).mapAttributes (·.set fallbackAttribute "") := by
  by_cases hxc : x = c
  · subst hxc
    obtain ⟨marked, htree⟩ := h.tree x hc hkeep
    have hid : policy.sourceAttributes (d.tree x).kind = id := by
      rw [Policy.sourceAttributes, usableUrl?_eq_none hsource]
    rw [Policy.keptAttributes, hid, Function.comp_id, markAttributes] at htree
    split at htree
    · exact .inr htree
    · rw [tree_mapAttributes_id] at htree
      exact .inl htree
  · -- Strictly below the child nothing changes.
    refine .inl (Document.tree_eq_of_same hwf hwf' fun m hm => ?_)
    refine h.same_below c hc hkeep m (hm.trans hx) ?_
    rintro rfl
    exact hxc (hx.antisymm hwf hm)

end Inherited

/-- A conversion discards a node, or leaves it at its place with at most a mark. -/
theorem Converted.survives (h : Converted policy d d' n p outcome.nodes)
    (hinside : Inside policy d d' n outcome) (hverdict : outcome.verdict = policy.verdict d n)
    (hwf : d.WellFormed) (hx : d.contains x = true) (hnx : ¬ d.Below n x)
    (hsource : sourceUrl? (d.tree x).kind = none) :
    (policy.Engulfs d n x ∧ d'.contains x = false) ∨
      (¬ policy.Engulfs d n x ∧ SamePlace d d' n x x ∧
        (d'.tree x = d.tree x ∨
          d'.tree x = (d.tree x).mapAttributes (·.set fallbackAttribute ""))) := by
  by_cases hxn : d.Below x n
  · cases hinside with
    | removed hgone => exact .inl ⟨.inl ⟨hverdict.symm, hxn⟩, hgone x hxn⟩
    | @replaced r hinh =>
      have hreplace : policy.verdict d n = .replace := hverdict.symm
      rcases hxn.cases_child hwf with rfl | ⟨c, hc, hxc⟩
      · exact absurd (Document.below_refl d x) hnx
      · cases hkeep : policy.keeps d c with
        | false =>
          have hskip : policy.verdict d n ≠ .skip := by
            rw [hreplace]
            exact fun heq => Verdict.noConfusion heq
          exact .inl ⟨.inr ⟨hskip, c, hc, hkeep, hxc⟩, hinh.gone c hc hkeep x hxc⟩
        | true =>
          refine .inr ⟨?_, ?_, hinh.tree_eq_or hwf h.wellFormed hc hkeep hxc hsource⟩
          · rintro (⟨hremove, -⟩ | ⟨-, c', hc', hdrop, hxc'⟩)
            · rw [hreplace] at hremove
              exact Verdict.noConfusion hremove
            · -- The node is below one child only.
              obtain rfl := Document.eq_of_below_children hwf hc hc' hxc hxc'
              rw [hkeep] at hdrop
              exact Bool.noConfusion hdrop
          · exact h.samePlace_inside hwf h.parent (List.mem_singleton_self r) hxn
              (hinh.below hc hkeep hxc)
  · exact .inr ⟨fun he => hxn (he.below hwf), h.samePlace_outside hwf hx hxn,
      .inl (h.tree_outside hwf hx hxn hnx)⟩

end Conversion

end AmpMarkup
