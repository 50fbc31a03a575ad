import AmpMarkup.Proofs.Conversion.Substitution
import AmpMarkup.Proofs.Text.Ascii

namespace AmpMarkup

open Document (root WellFormed SameAt)

/-!
# Visiting the audio elements

Elements are visited from last to first, so none that is still to be visited is below the one that
is converted. Hence a conversion changes neither where those elements stand nor what is decided
about them.

* `Visitable d ns` — `ns` are connected audio elements, each after those below it.
* `Substituted.verdict_eq`, `Substituted.issuesOf_eq` — the verdict on an element elsewhere stays.
* `Visited`, `run_convert_visitable`, `convertOne_eq` — one visit.
* `Visited.visitable` — what is left can still be visited.
* `visitable_elementsNamed` — the elements of a document in reverse order can be visited.
-/

variable {d d' : Document} {m n p b r : NodeId} {R ns : List NodeId}

namespace Document

/-- The same parents on the way up make the same way up. -/
theorem below_iff_of_parents (hsame : ∀ x, d.Below b x → d'.parent? x = d.parent? x) :
    d'.Below b m ↔ d.Below b m := by
  constructor
  · intro hb
    induction hb with
    | refl => exact below_refl d b
    | @tail x y _ hxy ih => exact ih.trans (below_of_parent ((hsame x ih).symm.trans hxy))
  · exact fun hb => hb.of_parents fun x hx _ _ => hsame x hx

end Document

namespace Conversion

variable {policy : Policy} {report : Report} {outcome : Outcome} {issues : List Issue}

/-! ### What a conversion does elsewhere -/

namespace Substituted

/-- Nodes that are not below the element keep their kinds. -/
theorem kind_outside (h : Substituted d d' n p R) (hm : d.contains m = true)
    (hmn : ¬ d.Below m n) : d'.kind? m = d.kind? m := by
  by_cases hmp : m = p
  · rw [hmp, h.kind_parent]
  · exact (h.same m (Document.index_lt_of_contains hm) hmp hmn).kind?

/-- Nodes that are not below the element keep their parents. -/
theorem parent?_outside (h : Substituted d d' n p R) (hm : d.contains m = true)
    (hmn : ¬ d.Below m n) : d'.parent? m = d.parent? m := by
  by_cases hmp : m = p
  · rw [hmp, h.parent_parent]
  · exact (h.same m (Document.index_lt_of_contains hm) hmp hmn).parent?

/-- Elsewhere only the list with the element in it changes, and only in its place. -/
theorem children_outside (h : Substituted d d' n p R) (hwf : d.WellFormed)
    (hp : d.parent? n = some p) (hm : d.contains m = true) (hmn : ¬ d.Below m n) :
    d'.children m = substitute n R (d.children m) := by
  by_cases hmp : m = p
  · rw [hmp, h.children_parent]
  · rw [(h.same m (Document.index_lt_of_contains hm) hmp hmn).children, substitute_of_not_mem]
    intro hmem
    have hpar := hwf.parent_of_mem hmem
    rw [hp, Option.some.injEq] at hpar
    exact hmp hpar.symm

/-- The way up from a node elsewhere stays. -/
theorem below_iff_outside (h : Substituted d d' n p R) (hwf : d.WellFormed)
    (hb : d.contains b = true) (hbn : ¬ d.Below b n) : d'.Below b m ↔ d.Below b m := by
  refine Document.below_iff_of_parents fun x hx => ?_
  exact h.parent?_outside (hx.contains hwf hb) fun hxn => hbn (hx.trans hxn)

/-- A node elsewhere is in an island just if it was in one before. -/
theorem isInFallbackIsland_eq (h : Substituted d d' n p R) (hwf : d.WellFormed)
    (hb : d.contains b = true) (hbn : ¬ d.Below b n) :
    d'.isInFallbackIsland b = d.isInFallbackIsland b := by
  rw [Document.isInFallbackIsland, Document.isInFallbackIsland, h.parent?_outside hb hbn]
  cases hq : d.parent? b with
  | none => rfl
  | some q =>
    have hqn : ¬ d.Below q n := fun hqn => hbn ((Document.below_of_parent hq).trans hqn)
    rw [Option.any_some, Option.any_some, Document.isElementNamed, Document.isElementNamed,
      h.kind_outside (hwf.contains_parent hq) hqn]

/-- What is read off the sources among the children of an element elsewhere stays, since neither the
    converted element nor its replacement is a source. -/
theorem filterMap_sources (h : Substituted d d' n p R) (hwf : d.WellFormed)
    (hp : d.parent? n = some p) (hb : d.contains b = true) (hbn : ¬ d.Below b n) {α : Type}
    {f : NodeKind → Option α} (hn : (d.kind? n).bind f = none)
    (hR : ∀ r ∈ R, (d'.kind? r).bind f = none) :
    (d'.children b).filterMap (fun c => (d'.kind? c).bind f) =
      (d.children b).filterMap fun c => (d.kind? c).bind f := by
  rw [h.children_outside hwf hp hb hbn, List.filterMap_eq_flatMap_toList,
    List.filterMap_eq_flatMap_toList]
  refine flatMap_substitute ?_ fun c hc hcn => ?_
  · -- Nothing is read off `n`, and nothing off what stands there now.
    rw [hn, Option.toList_none, List.flatMap_eq_nil_iff]
    exact fun r hr => by rw [hR r hr, Option.toList_none]
  · rw [h.kind_outside (hwf.contains_child hc) (Document.not_below_of_child hwf hc hbn hcn)]

end Substituted

/-! ### Verdicts elsewhere -/

/-- An element has one name. -/
theorem isNamed_eq_false {k : NodeKind} {a b : String} (h : k.isNamed a = true)
    (hab : Text.fold a ≠ Text.fold b) : k.isNamed b = false := by
  rw [NodeKind.isNamed, Option.any_eq_true] at h
  obtain ⟨tag, htag, ha⟩ := h
  rw [NodeKind.isNamed, htag, Option.any_some, Bool.eq_false_iff]
  intro hb
  rw [Text.sameFold_iff] at ha hb
  exact hab (ha.symm.trans hb)

/-- A new element has the name that it has been given. -/
theorem isNamed_ofElement (name : String) (a : Attributes) :
    (NodeKind.ofElement name a).isNamed name = true := by
  rw [NodeKind.isNamed, NodeKind.ofElement, NodeKind.tagName?, Option.any_some, Text.sameFold_iff,
    Text.fold_fold]

/-- What is not called a source has no source URL. -/
theorem sourceUrl?_eq_none {k : NodeKind} (h : k.isNamed sourceTag = false) :
    sourceUrl? k = none := by
  rw [sourceUrl?, if_neg (by simp [h])]

/-- All trees that an element is replaced by have the same name at their tops. -/
theorem kind_of_mem_replaceTree {k : NodeKind} {ts : List Tree} {t : Tree}
    (ht : t ∈ policy.replaceTree k ts) : ∃ a, t.kind = .ofElement replacementTag a := by
  rw [Policy.replaceTree] at ht
  dsimp only at ht
  split at ht
  · rw [List.mem_singleton] at ht
    exact ⟨_, by rw [ht, Tree.kind]⟩
  · exact absurd ht List.not_mem_nil

/-- Some result exists just if the list of the results is not empty. -/
theorem any_isSome_eq {α β : Type} (f : α → Option β) (l : List α) :
    (l.any fun a => (f a).isSome) = !(l.filterMap f).isEmpty := by
  induction l with
  | nil => rfl
  | cons a rest ih =>
    rw [List.any_cons, List.filterMap_cons, ih]
    cases f a <;> rfl

/-- An element has a usable source if the rules leave it one or one of its children has a URL to
    use. -/
theorem hasUsableSource_eq_filterMap (policy : Policy) (d : Document) (n : NodeId) :
    policy.hasUsableSource d n =
      ((policy.filter audioRules ((d.attributes? n).getD .empty)).contains "src" ||
        !((d.children n).filterMap fun c => (d.kind? c).bind policy.usableUrl?).isEmpty) := by
  rw [Policy.hasUsableSource, ← any_isSome_eq]
  simp only [Option.isSome_bind]

/-! ### Conversions of audio elements -/

/-- The audio element `n`, a child of `p`, has been converted, and `R` has taken its place. -/
structure Converted (policy : Policy) (d d' : Document) (n p : NodeId) (R : List NodeId) : Prop
    extends Substituted d d' n p R where
  named : d.isElementNamed n audioTag = true
  parent : d.parent? n = some p
  trees : R.map d'.tree =
    policy.replaceTree ((d.kind? n).getD .document) ((d.children n).map d.tree)

/-- A connected audio element outside of islands is converted. -/
theorem run_convert_audio (h : d.WellFormed) (hn : d.isElementNamed n audioTag = true)
    (hroot : d.Below n root) (hisland : d.isInFallbackIsland n = false) :
    ∃ outcome d' p, (policy.convert n).run d = .ok (outcome, policy.issuesOf d n) d' ∧
      outcome.verdict = policy.verdict d n ∧ Converted policy d d' n p outcome.nodes ∧
      Inside policy d d' n outcome := by
  obtain ⟨k, hk, hnamed⟩ := Document.kind_of_isElementNamed hn
  obtain ⟨tag, b, rfl⟩ := NodeKind.eq_element_of_isNamed hnamed
  rcases hroot.cases_parent with rfl | ⟨p, hp, hproot⟩
  · -- The root is no element.
    rw [h.kind_root] at hk
    exact NodeKind.noConfusion (Option.some.inj hk)
  · obtain ⟨outcome, d', hrun, hverdict, hsub, hinside, htrees⟩ :=
      run_convert h hk hp hproot hisland
    have hconv : Converted policy d d' n p outcome.nodes :=
      { hsub with named := hn, parent := hp, trees := by rw [htrees, hk, Option.getD_some] }
    exact ⟨outcome, d', p, hrun, hverdict, hconv, hinside⟩

namespace Converted

/-- A converted element and what takes its place are no sources. -/
theorem bind_eq_none (h : Converted policy d d' n p R) (hwf' : d'.WellFormed) {α : Type}
    {f : NodeKind → Option α} (hf : ∀ k, sourceUrl? k = none → f k = none) :
    (d.kind? n).bind f = none ∧ ∀ r ∈ R, (d'.kind? r).bind f = none := by
  constructor
  · obtain ⟨k, hk, hnamed⟩ := Document.kind_of_isElementNamed h.named
    rw [hk]
    exact hf k (sourceUrl?_eq_none (isNamed_eq_false hnamed (Text.fold_ne (by decide))))
  · -- The tops of the new trees have the name of a replacement.
    intro r hr
    have hmem : d'.tree r ∈
        policy.replaceTree ((d.kind? n).getD .document) ((d.children n).map d.tree) :=
      h.trees ▸ List.mem_map_of_mem hr
    obtain ⟨a, ha⟩ := kind_of_mem_replaceTree hmem
    rw [Document.tree_eq hwf', Tree.kind] at ha
    cases hk : d'.kind? r with
    | none => rfl
    | some k =>
      rw [hk, Option.getD_some] at ha
      have hnamed : k.isNamed replacementTag = true := ha ▸ isNamed_ofElement replacementTag a
      exact hf k (sourceUrl?_eq_none (isNamed_eq_false hnamed (Text.fold_ne (by decide))))

/-- The verdict on an element elsewhere stays. -/
theorem verdict_eq (h : Converted policy d d' n p R) (hwf : d.WellFormed)
    (hb : d.contains b = true) (hbn : ¬ d.Below b n) (policy' : Policy) :
    policy'.verdict d' b = policy'.verdict d b := by
  have hsources : (d'.children b).filterMap (fun c => (d'.kind? c).bind policy'.usableUrl?) =
      (d.children b).filterMap fun c => (d.kind? c).bind policy'.usableUrl? := by
    obtain ⟨hn, hR⟩ := h.bind_eq_none h.wellFormed (f := policy'.usableUrl?)
      fun k hk => usableUrl?_eq_none hk
    exact h.filterMap_sources hwf h.parent hb hbn hn hR
  rw [Policy.verdict, Policy.verdict, h.isInFallbackIsland_eq hwf hb hbn,
    hasUsableSource_eq_filterMap, hasUsableSource_eq_filterMap, Document.attributes?,
    Document.attributes?, h.kind_outside hb hbn, hsources]

/-- What has to be reported about an element elsewhere stays. -/
theorem issuesOf_eq (h : Converted policy d d' n p R) (hwf : d.WellFormed)
    (hb : d.contains b = true) (hbn : ¬ d.Below b n) (policy' : Policy) :
    policy'.issuesOf d' b = policy'.issuesOf d b := by
  obtain ⟨hn, hR⟩ := h.bind_eq_none h.wellFormed (f := policy'.sourceIssue?)
    fun k hk => sourceIssue?_eq_none hk
  rw [Policy.issuesOf, Policy.issuesOf, h.verdict_eq hwf hb hbn,
    h.filterMap_sources hwf h.parent hb hbn hn hR]

end Converted

/-! ### Visits -/

/-- `ns` are connected audio elements, each after those below it. -/
structure Visitable (d : Document) (ns : List NodeId) : Prop where
  named : ∀ n ∈ ns, d.isElementNamed n audioTag = true
  connected : ∀ n ∈ ns, d.Below n root
  order : ns.Pairwise fun a b => ¬ d.Below b a

/-- The elements to visit are live. -/
theorem Visitable.contains (h : Visitable d ns) (hn : n ∈ ns) : d.contains n = true := by
  obtain ⟨k, hk, -⟩ := Document.kind_of_isElementNamed (h.named n hn)
  exact Document.contains_of_kind? hk

/-- After the first visit the others are left. -/
theorem Visitable.tail (h : Visitable d (n :: ns)) : Visitable d ns where
  named m hm := h.named m (List.mem_cons_of_mem _ hm)
  connected m hm := h.connected m (List.mem_cons_of_mem _ hm)
  order := (List.pairwise_cons.mp h.order).2

/-- The elements that are left are elsewhere. -/
theorem Visitable.not_below (h : Visitable d (n :: ns)) (hb : b ∈ ns) : ¬ d.Below b n :=
  (List.pairwise_cons.mp h.order).1 b hb

/-- None of the elements is below a child of the first. -/
theorem Visitable.not_below_child (h : Visitable d (n :: ns)) (hwf : d.WellFormed) {c : NodeId}
    (hc : c ∈ d.children n) (hb : b ∈ n :: ns) : ¬ d.Below b c := by
  rcases List.mem_cons.mp hb with rfl | hb
  · exact hwf.not_below_of_parent (hwf.parent_of_mem hc)
  · exact fun hbc => h.not_below hb (Document.below_of_mem_children hwf hc hbc)

/-- After a conversion the elements that are left can still be visited. -/
theorem Converted.visitable (h : Converted policy d d' n p R) (hwf : d.WellFormed)
    (hv : Visitable d (n :: ns)) : Visitable d' ns where
  named b hb := by
    rw [Document.isElementNamed, h.kind_outside (hv.tail.contains hb) (hv.not_below hb)]
    exact hv.tail.named b hb
  connected b hb :=
    (h.below_iff_outside hwf (hv.tail.contains hb) (hv.not_below hb)).mpr (hv.tail.connected b hb)
  order := hv.tail.order.imp_of_mem fun {a b} _ hb hab hb' =>
    hab ((h.below_iff_outside hwf (hv.tail.contains hb) (hv.not_below hb)).mp hb')

/-- What one visit comes to: an element in an island is skipped, any other one is converted. -/
inductive Visited (policy : Policy) (d : Document) (n : NodeId) : Outcome → Document → Prop where
  | skipped : d.isInFallbackIsland n = true → Visited policy d n .skipped d
  | converted {d' : Document} {p : NodeId} {outcome : Outcome} :
    d.isInFallbackIsland n = false → Converted policy d d' n p outcome.nodes →
      Inside policy d d' n outcome → Visited policy d n outcome d'

/-- A visit never fails. -/
theorem run_convert_visitable (policy : Policy) (h : d.WellFormed) (hv : Visitable d (n :: ns)) :
    ∃ outcome d', (policy.convert n).run d = .ok (outcome, policy.issuesOf d n) d' ∧
      outcome.verdict = policy.verdict d n ∧ Visited policy d n outcome d' := by
  have hn := hv.named n List.mem_cons_self
  have hroot := hv.connected n List.mem_cons_self
  cases hisland : d.isInFallbackIsland n with
  | true =>
    have hskip : policy.verdict d n = .skip := by rw [Policy.verdict, if_pos hisland]
    refine ⟨.skipped, d, ?_, hskip.symm, .skipped hisland⟩
    rw [run_convert_island hisland, Policy.issuesOf, if_pos hskip]
  | false =>
    obtain ⟨outcome, d', p, hrun, hverdict, hconv, hinside⟩ :=
      run_convert_audio h hn hroot hisland
    exact ⟨outcome, d', hrun, hverdict, .converted hisland hconv hinside⟩

/-- It adds its outcome and its issues to the report. -/
theorem convertOne_eq (policy : Policy) (report : Report) (h : d.WellFormed)
    (hv : Visitable d (n :: ns)) :
    ∃ outcome d', policy.convertOne (report, d) n =
        (report.add n outcome (policy.issuesOf d n), d') ∧
      outcome.verdict = policy.verdict d n ∧ Visited policy d n outcome d' := by
  obtain ⟨outcome, d', hrun, hvisit⟩ := run_convert_visitable policy h hv
  exact ⟨outcome, d', by rw [Policy.convertOne, hrun], hvisit⟩

/-- A visit leaves a document well formed. -/
theorem Visited.wellFormed (h : Visited policy d n outcome d') (hwf : d.WellFormed) :
    d'.WellFormed := by
  cases h with
  | skipped _ => exact hwf
  | converted _ hconv => exact hconv.wellFormed

/-- After a visit the elements that are left can still be visited. -/
theorem Visited.visitable (h : Visited policy d n outcome d') (hwf : d.WellFormed)
    (hv : Visitable d (n :: ns)) : Visitable d' ns := by
  cases h with
  | skipped _ => exact hv.tail
  | converted _ hconv => exact hconv.visitable hwf hv

/-- A visit does not touch the elements that are left. -/
theorem Visited.kind_eq (h : Visited policy d n outcome d') (hv : Visitable d (n :: ns))
    (hb : b ∈ ns) : d'.kind? b = d.kind? b := by
  cases h with
  | skipped _ => rfl
  | converted _ hconv => exact hconv.kind_outside (hv.tail.contains hb) (hv.not_below hb)

/-- A visit does not change what is decided about the elements that are left. -/
theorem Visited.verdict_eq (h : Visited policy d n outcome d') (hwf : d.WellFormed)
    (hv : Visitable d (n :: ns)) (hb : b ∈ ns) :
    policy.verdict d' b = policy.verdict d b ∧ policy.issuesOf d' b = policy.issuesOf d b := by
  cases h with
  | skipped _ => exact ⟨rfl, rfl⟩
  | converted _ hconv =>
    exact ⟨hconv.verdict_eq hwf (hv.tail.contains hb) (hv.not_below hb) policy,
      hconv.issuesOf_eq hwf (hv.tail.contains hb) (hv.not_below hb) policy⟩

/-- The audio elements of a document, from last to first. -/
theorem visitable_elementsNamed (h : d.WellFormed) :
    Visitable d (d.elementsNamed audioTag).reverse where
  named n hn := by
    rw [List.mem_reverse, Document.elementsNamed, List.mem_filter] at hn
    exact hn.2
  connected n hn := by
    rw [List.mem_reverse, Document.elementsNamed, List.mem_filter,
      Document.mem_descendants_iff h] at hn
    exact hn.1.1
  order := by
    rw [List.pairwise_reverse]
    have hsubtree := Document.pairwise_subtree h root
    rw [Document.subtree_eq_cons_descendants h, List.pairwise_cons] at hsubtree
    exact hsubtree.2.filter _

end Conversion

end AmpMarkup
