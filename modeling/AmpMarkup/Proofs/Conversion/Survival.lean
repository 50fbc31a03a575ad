import AmpMarkup.Proofs.Conversion.BottomUp
import AmpMarkup.Proofs.Conversion.Course
import AmpMarkup.Proofs.Conversion.ReplacementTree
import AmpMarkup.Proofs.Conversion.Verdicts

namespace AmpMarkup

open Document (root WellFormed SameAt)

/-!
# Replacements and later visits

A replacement that has taken its place can be moved, marked or discarded by the conversions of the
elements around it. Which of them discard it can be told from where the replaced element stood at
first; if none does, it is connected in the end and still shows what it has shown, up to a mark.

* `KeptByMark P` — what holds of a tree that is no source, and goes on to hold when it is marked.
* `Outlived` — what has become of a replacement after some visits.
* `Course.outlived` — after the visits to the elements that are left; `outlived_new` — together with
  the visit with which it comes.
* `Course.outlived_of_mem`, `outlived_of_mem_outcomes` — after all visits, for every replacement
  that is reported.
-/

variable {d d₁ d' : Document} {m n p r x : NodeId} {R ns : List NodeId}

namespace Conversion

variable {policy : Policy} {report : Report} {outcome : Outcome} {os : List (NodeId × Outcome)}

/-! ### What happens to a replacement -/

/-- `P` holds of no source, and of a tree that is marked if it holds of the tree. -/
structure KeptByMark (P : Tree → Prop) : Prop where
  no_source (t : Tree) : P t → sourceUrl? t.kind = none
  mark (t : Tree) : P t → P (t.mapAttributes (·.set fallbackAttribute ""))

/-- What has become of `r`, which shows a tree with `P`, with the visits to `ns`, which have led
    from `d` to `d'`: it has been discarded if one of them discards `x`, which stood in `d` where
    `r` stood. -/
structure Outlived (policy : Policy) (P : Tree → Prop) (d d' : Document) (ns : List NodeId)
    (x r : NodeId) : Prop where
  index_lt : r.index < d'.size
  discarded_iff : d'.contains r = false ↔ ∃ m ∈ ns, policy.Engulfs d m x
  connected : d'.contains r = true → d'.Below r root
  tree : d'.contains r = true → P (d'.tree r)

namespace Outlived

variable {P : Tree → Prop}

/-- One visit more, at the beginning, that does not discard the node. -/
theorem cons {x' : NodeId} (h : Outlived policy P d₁ d' ns x' r)
    (hiff : ∀ m ∈ ns, policy.Engulfs d₁ m x' ↔ policy.Engulfs d m x)
    (hn : ¬ policy.Engulfs d n x) : Outlived policy P d d' (n :: ns) x r := by
  refine ⟨h.index_lt, ?_, h.connected, h.tree⟩
  rw [h.discarded_iff]
  constructor
  · rintro ⟨m, hm, he⟩
    exact ⟨m, List.mem_cons_of_mem n hm, (hiff m hm).mp he⟩
  · rintro ⟨m, hm, he⟩
    rcases List.mem_cons.mp hm with rfl | hm
    · exact absurd he hn
    · exact ⟨m, hm, (hiff m hm).mpr he⟩

/-- A node that is gone, and a reason for it. -/
theorem of_gone (hlt : r.index < d'.size) (hgone : d'.contains r = false) (hm : m ∈ ns)
    (he : policy.Engulfs d m x) : Outlived policy P d d' ns x r := by
  have hdead : d'.contains r ≠ true := by
    rw [hgone]
    exact Bool.false_ne_true
  exact ⟨hlt, iff_of_true hgone ⟨m, hm, he⟩, fun hr => absurd hr hdead, fun hr => absurd hr hdead⟩

end Outlived

/-- A connected node that is no source goes through the visits to elements that are not below it. -/
theorem Course.outlived {P : Tree → Prop} (hc : Course policy d os d') (hP : KeptByMark P)
    (hx : d.Below x root) (hlast : ∀ m ∈ os.map Prod.fst, ¬ d.Below m x) (ht : P (d.tree x)) :
    Outlived policy P d d' (os.map Prod.fst) x x := by
  -- As long as the node is there, it is connected and shows what it has shown, be it with a mark.
  induction hc with
  | @nil d h =>
    have hlive : d.contains x = true := hx.contains_lower h.contains_root
    refine ⟨Document.index_lt_of_contains hlive, ?_, fun _ => hx, fun _ => ht⟩
    simp [hlive]
  | @cons d d₁ d' n outcome os h hv hverdict hvisited hrest ih =>
    have hlive : d.contains x = true := hx.contains_lower h.contains_root
    have hlt : x.index < d.size := Document.index_lt_of_contains hlive
    have htail : ∀ m ∈ os.map Prod.fst, ¬ d.Below m x := fun m hm =>
      hlast m (List.mem_cons_of_mem n hm)
    cases hvisited with
    | skipped hisland =>
      exact (ih hx htail ht).cons (fun m _ => Iff.rfl)
        (not_engulfs_of_skip (verdict_eq_skip_iff.mpr hisland))
    | converted hisland hconv hinside =>
      have hnx : ¬ d.Below n x := hlast n List.mem_cons_self
      rcases hconv.survives hinside hverdict h hlive hnx (hP.no_source _ ht) with
        ⟨hengulfs, hgone⟩ | ⟨hengulfs, hplace, htree⟩
      · -- What has been discarded stays so, whatever comes after.
        have hlt₁ : x.index < d₁.size := Nat.lt_of_lt_of_le hlt hconv.size_le
        exact .of_gone (Nat.lt_of_lt_of_le hlt₁ hrest.size_le) (hrest.not_contains hlt₁ hgone)
          List.mem_cons_self hengulfs
      · have hx₁ : d₁.Below x root :=
          (hplace root h.contains_root (hv.not_below_root h)).mpr hx
        have htail₁ : ∀ m ∈ os.map Prod.fst, ¬ d₁.Below m x := by
          intro m hm
          rw [hconv.below_iff_outside h (hv.tail.contains hm) (hv.not_below hm)]
          exact htail m hm
        have ht₁ : P (d₁.tree x) := by
          rcases htree with htree | htree
          · exact htree ▸ ht
          · exact htree ▸ hP.mark _ ht
        exact (ih hx₁ htail₁ ht₁).cons (fun m hm =>
          hconv.engulfs_iff h (hv.tail.contains hm) (hv.not_below hm) hplace) hengulfs

/-- A replacement outlives the visit with which it comes, and goes through the ones after it. -/
theorem outlived_new {P : Tree → Prop} (h : d.WellFormed)
    (hv : Visitable d (x :: os.map Prod.fst)) (hconv : Converted policy d d₁ x p [r])
    (hverdict : policy.verdict d x = .replace) (hrest : Course policy d₁ os d')
    (hP : KeptByMark P) (hnew : ∀ t, policy.pending d (x :: os.map Prod.fst) x = [t] → P t) :
    Outlived policy P d d' (x :: os.map Prod.fst) x r := by
  have hr : r ∈ [r] := List.mem_singleton_self r
  have hplace : SamePlace d d₁ x x r := hconv.samePlace_fresh h hconv.parent hr
  have hroot : d₁.Below r root :=
    (hplace root h.contains_root (hv.not_below_root h)).mpr (hv.connected x List.mem_cons_self)
  have hlast : ∀ m ∈ os.map Prod.fst, ¬ d₁.Below m r := fun m hm =>
    hconv.not_below_fresh h (hv.tail.contains hm) (hv.not_below hm) hr
  -- It shows what the element was to become.
  have hisland : d.isInFallbackIsland x = false := by
    by_contra hisland
    have hskip : policy.verdict d x = .skip := verdict_eq_skip_iff.mpr (by simpa using hisland)
    rw [hverdict] at hskip
    exact Verdict.noConfusion hskip
  have hpending := hconv.pending_replaced h hv hisland
  rw [List.flatMap_singleton, pending_of_apart hconv.wellFormed hlast] at hpending
  exact (hrest.outlived hP hroot hlast (hnew _ hpending.symm)).cons (fun m hm =>
    hconv.engulfs_iff h (hv.tail.contains hm) (hv.not_below hm) hplace)
    (not_engulfs_self h hverdict)

/-- Every replacement that comes with the visits has outlived them, with all that holds of what the
    element was to become. -/
theorem Course.outlived_of_mem {P : Tree → Prop} (hc : Course policy d os d')
    (hr : (x, .replaced r) ∈ os) (hP : KeptByMark P)
    (hnew : ∀ t, policy.pending d (os.map Prod.fst) x = [t] → P t) :
    Outlived policy P d d' (os.map Prod.fst) x r := by
  induction hc with
  | nil _ => exact absurd hr List.not_mem_nil
  | @cons d d₁ d' n outcome os h hv hverdict hvisited hrest ih =>
    rcases List.mem_cons.mp hr with heq | hmem
    · -- The replacement has come with this visit.
      obtain ⟨rfl, rfl⟩ := Prod.mk.inj heq
      cases hvisited with
      | converted hisland hconv _ => exact outlived_new h hv hconv hverdict.symm hrest hP hnew
    · -- It is still to come, and what decides about it has not been touched.
      have hx : x ∈ os.map Prod.fst := List.mem_map_of_mem hmem
      have hxn : ¬ d.Below x n := hv.not_below hx
      have hnot : ¬ policy.Engulfs d n x := fun he => hxn (he.below h)
      cases hvisited with
      | skipped hisland =>
        exact (ih hmem (pending_cons_of_island h hisland x ▸ hnew)).cons (fun m _ => Iff.rfl) hnot
      | converted hisland hconv hinside =>
        have hpending := hconv.pending_eq h hv hisland (hv.tail.contains hx) hxn
        have hplace := hconv.samePlace_outside h (hv.tail.contains hx) hxn
        exact (ih hmem (hpending ▸ hnew)).cons (fun m hm =>
          hconv.engulfs_iff h (hv.tail.contains hm) (hv.not_below hm) hplace) hnot

/-! ### Replacements -/

/-- A marked replacement is a replacement, and none is a source. -/
theorem keptByMark_replacement (policy : Policy) :
    KeptByMark fun t => ∃ s : Replacement policy, t = s.tree where
  no_source := by
    rintro _ ⟨s, rfl⟩
    exact s.sourceUrl?_tree
  mark := by
    rintro _ ⟨s, rfl⟩
    exact ⟨s.mark, s.tree_mark.symm⟩

/-- Every replacement that is reported has outlived the visits, or has been reported before. -/
theorem outlived_of_mem_outcomes (h : d.WellFormed) (hv : Visitable d ns)
    (hr : (x, .replaced r) ∈ (ns.foldl policy.convertOne (report, d)).1.outcomes) :
    (x, .replaced r) ∈ report.outcomes ∨
      (x ∈ ns ∧ Outlived policy (fun t => ∃ s : Replacement policy, t = s.tree) d
        (ns.foldl policy.convertOne (report, d)).2 ns x r) := by
  obtain ⟨os, hfst, houtcomes, hcourse⟩ := course_visits policy report h hv
  rw [houtcomes, List.mem_append] at hr
  rcases hr with hold | hr
  · exact .inl hold
  · have hx : x ∈ os.map Prod.fst := List.mem_map_of_mem hr
    obtain ⟨k, hk, hnamed⟩ := Document.kind_of_isElementNamed (hcourse.visitable.named x hx)
    have hout := hcourse.outlived_of_mem hr (keptByMark_replacement policy) fun t ht => by
      rw [pending_eq h, if_pos ⟨hx, hcourse.isInFallbackIsland_of_mem hr⟩, hk,
        Option.getD_some] at ht
      obtain ⟨s, hs, -⟩ := exists_replacement hnamed (ht ▸ List.mem_singleton_self t)
      exact ⟨s, hs⟩
    rw [hfst] at hx hout
    exact .inr ⟨hx, hout⟩

end Conversion

end AmpMarkup
