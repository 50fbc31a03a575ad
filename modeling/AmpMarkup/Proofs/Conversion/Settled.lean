import AmpMarkup.Conversion.Pass
import AmpMarkup.Proofs.Conversion.BottomUp
import AmpMarkup.Proofs.Conversion.Verdicts

namespace AmpMarkup

open Document (root WellFormed)

/-!
# Nothing is left after a conversion

What a conversion makes of a tree has audio elements in islands only: the conversion of a child
comes before that of its parent, and both the replacement and the fallback are made of converted
children. A document with such a tree is not changed by any later conversion.

* `Tree.isSettled` — every audio element of the tree stands in an island.
* `isSettled_convertTree` — the conversion of a tree is settled.
* `island_of_settled` — what that means for the nodes of a document.
* `Report.IsIdle`, `runFrom_idle` — conversions that find nothing to do.
* `reachable_later_conversions_idle` — one conversion is enough, whatever comes after it.
-/

variable {d : Document} {m n x : NodeId}

namespace Tree

mutual

/-- Does every audio element stand in an island? The tree itself may do so. -/
def isSettled (inIsland : Bool) : Tree → Bool
  | node kind children =>
    (!kind.isNamed Conversion.audioTag || inIsland) &&
      allSettled (kind.isNamed fallbackTag) children

/-- The same of the children of one node. -/
def allSettled (inIsland : Bool) : List Tree → Bool
  | [] => true
  | t :: rest => t.isSettled inIsland && allSettled inIsland rest

end

/-- Trees are settled if each of them is. -/
theorem allSettled_iff {inIsland : Bool} {ts : List Tree} :
    allSettled inIsland ts = true ↔ ∀ t ∈ ts, t.isSettled inIsland = true := by
  induction ts with
  | nil => simp [allSettled]
  | cons t rest ih => simp [allSettled, ih]

/-- Settled trees may be put together. -/
theorem allSettled_append {inIsland : Bool} {ts us : List Tree} :
    allSettled inIsland (ts ++ us) = (allSettled inIsland ts && allSettled inIsland us) := by
  induction ts with
  | nil => simp [allSettled]
  | cons t rest ih => simp [allSettled, ih, Bool.and_assoc]

/-- Attributes do not matter. -/
@[simp] theorem isSettled_mapAttributes (inIsland : Bool) (t : Tree) (f : Attributes → Attributes) :
    (t.mapAttributes f).isSettled inIsland = t.isSettled inIsland := by
  obtain ⟨k, ts⟩ := t
  rw [mapAttributes, isSettled, isSettled, NodeKind.isNamed_mapAttributes,
    NodeKind.isNamed_mapAttributes]

end Tree

namespace Conversion

open AmpMarkup.Tree (isSettled allSettled allSettled_iff allSettled_append)

variable {policy : Policy} {inIsland : Bool}

/-! ### The conversion of a tree -/

/-- The children that stay are settled if all of them are. -/
theorem allSettled_kept (policy : Policy) {ts : List Tree}
    (h : allSettled inIsland ts = true) :
    allSettled inIsland (markFirst (ts.filterMap policy.keepTree?)) = true := by
  -- A mark changes attributes only.
  have hmark : ∀ us : List Tree, allSettled inIsland (markFirst us) = allSettled inIsland us := by
    intro us
    induction us with
    | nil => rfl
    | cons t rest ih =>
      rw [markFirst]
      split
      · rw [allSettled, allSettled, Tree.isSettled_mapAttributes]
      · rw [allSettled, allSettled, ih]
  rw [hmark, allSettled_iff]
  intro t ht
  obtain ⟨u, hu, hkeep⟩ := List.mem_filterMap.mp ht
  rw [keepTree?_eq] at hkeep
  split at hkeep
  · rw [← Option.some.inj hkeep, Tree.isSettled_mapAttributes]
    exact allSettled_iff.mp h u hu
  · exact absurd hkeep (by simp)

/-- The replacement of an element with settled children is settled wherever it stands. -/
theorem isSettled_replaceTree {k : NodeKind} (hk : k.isNamed audioTag = true) {ts : List Tree}
    (h : allSettled false ts = true) {t : Tree} (ht : t ∈ policy.replaceTree k ts) :
    t.isSettled inIsland = true := by
  have hkept := allSettled_kept policy h
  -- Neither the replacement nor the island is an audio element, and only the island is one.
  have hreplacement : ∀ a, (NodeKind.ofElement replacementTag a).isNamed audioTag = false ∧
      (NodeKind.ofElement replacementTag a).isNamed fallbackTag = false := fun a =>
    ⟨isNamed_eq_false (isNamed_ofElement _ a) (Text.fold_ne (by decide)),
      isNamed_eq_false (isNamed_ofElement _ a) (Text.fold_ne (by decide))⟩
  have hisland : (NodeKind.ofElement fallbackTag .empty).isNamed audioTag = false :=
    isNamed_eq_false (isNamed_ofElement _ _) (Text.fold_ne (by decide))
  have haudio : k.isNamed fallbackTag = false := isNamed_eq_false hk (Text.fold_ne (by decide))
  rw [Policy.replaceTree] at ht
  dsimp only at ht
  split at ht
  · rw [List.mem_singleton] at ht
    obtain ⟨hr₁, hr₂⟩ := hreplacement
      ((policy.filter audioRules (k.attributes?.getD .empty)).set "width" "auto")
    rw [ht, isSettled, hr₁, hr₂, allSettled_append, hkept]
    simp [allSettled, isSettled, hisland, isNamed_ofElement, haudio, hkept]
  · exact absurd ht List.not_mem_nil

mutual

/-- The conversion of a tree is settled. -/
theorem isSettled_convertTree (policy : Policy) (inIsland : Bool) :
    ∀ t, ∀ t' ∈ policy.convertTree inIsland t, t'.isSettled inIsland = true
  | .node kind children => by
    intro t' ht'
    have hchildren := allSettled_convertTrees policy (kind.isNamed fallbackTag) children
    rw [Policy.convertTree] at ht'
    split at ht'
    -- Outside of an island an audio element is replaced; its children have been settled outside.
    · rename_i hconvert
      rw [Bool.and_eq_true] at hconvert
      have haudio : kind.isNamed fallbackTag = false :=
        isNamed_eq_false hconvert.1 (Text.fold_ne (by decide))
      rw [haudio] at hchildren ht'
      exact isSettled_replaceTree hconvert.1 hchildren ht'
    -- What keeps its place is no audio element, or it stands in an island.
    · rename_i hkeep
      rw [List.mem_singleton] at ht'
      rw [ht', isSettled, hchildren, Bool.and_true]
      cases haudio : kind.isNamed audioTag with
      | false => rfl
      | true => simpa [haudio] using hkeep

/-- Converted trees are settled, by recursion on the trees. -/
theorem allSettled_convertTrees (policy : Policy) (inIsland : Bool) :
    ∀ ts, allSettled inIsland (policy.convertTrees inIsland ts) = true
  | [] => by rw [Policy.convertTrees, allSettled]
  | t :: rest => by
    rw [Policy.convertTrees, allSettled_append, allSettled_convertTrees policy inIsland rest,
      Bool.and_true, allSettled_iff]
    exact isSettled_convertTree policy inIsland t

end

/-! ### Documents -/

/-- If the tree of a node is settled, every audio element below the node stands in an island. -/
theorem island_of_settled (h : d.WellFormed)
    (hx : (d.tree x).isSettled (d.isInFallbackIsland x) = true) (hm : d.Below m x)
    (hnamed : d.isElementNamed m audioTag = true) : d.isInFallbackIsland m = true := by
  induction x using h.induction_down with
  | _ x ih =>
    rw [Document.tree_eq h, isSettled, Bool.and_eq_true, allSettled_iff] at hx
    -- The tree of `x` is settled, and so is the tree of each child where it stands.
    rw [← Document.isElementNamed_eq, ← Document.isElementNamed_eq] at hx
    rcases hm.cases_child h with rfl | ⟨c, hc, hmc⟩
    · simpa [hnamed] using hx.1
    · refine ih c hc ?_ hmc
      rw [isInFallbackIsland_of_mem h hc]
      exact hx.2 _ (List.mem_map_of_mem hc)

/-- After a conversion every connected audio element stands in an island. -/
theorem island_of_convertAudio (h : d.WellFormed) (policy : Policy)
    (hn : (policy.convertAudio d).2.Below n root)
    (hnamed : (policy.convertAudio d).2.isElementNamed n audioTag = true) :
    (policy.convertAudio d).2.isInFallbackIsland n = true := by
  have hwf := wellFormed_convertAudio policy h
  have hroot : (policy.convertAudio d).2.isInFallbackIsland root = false := by
    rw [Document.isInFallbackIsland, hwf.parent_root, Option.any_none]
  refine island_of_settled hwf ?_ hn hnamed
  have htree := tree_convertAudio h policy
  rw [hroot]
  exact isSettled_convertTree policy false _ _ (htree ▸ List.mem_singleton_self _)

/-! ### Later conversions -/

/-- The report of a conversion that finds nothing to do. -/
def idleReport (d : Document) : Report :=
  { outcomes := (d.elementsNamed audioTag).reverse.map fun n => (n, .skipped) }

/-- A report of nothing but skipped elements. -/
structure Report.IsIdle (r : Report) : Prop where
  skipped : ∀ e ∈ r.outcomes, e.2 = .skipped
  issues_eq : r.issues = []
  unmodified : r.isModified = false

/-- The report of a conversion with nothing to do lists skipped elements, and no more. -/
theorem isIdle_idleReport (d : Document) : (idleReport d).IsIdle := by
  refine ⟨fun e he => ?_, rfl, ?_⟩
  · obtain ⟨n, -, rfl⟩ := List.mem_map.mp he
    rfl
  · rw [idleReport, Report.isModified, List.any_map, List.any_eq_false]
    intro n _
    exact Bool.false_ne_true

/-- After a conversion no further one finds anything to do. -/
theorem convertAudio_convertAudio (h : d.WellFormed) (policy policy' : Policy) :
    policy'.convertAudio (policy.convertAudio d).2 =
      (idleReport (policy.convertAudio d).2, (policy.convertAudio d).2) := by
  refine convertAudio_of_islands fun n hn => ?_
  rw [Document.elementsNamed, List.mem_filter,
    Document.mem_descendants_iff (wellFormed_convertAudio policy h)] at hn
  exact island_of_convertAudio h policy hn.1.1 hn.2

/-- Conversions that find nothing to do leave the document as it is. -/
theorem runFrom_idle (hidle : ∀ policy : Policy, policy.convertAudio d = (idleReport d, d))
    (reports : List Report) (policies : List Policy) :
    Pass.runFrom reports d policies = ⟨reports ++ policies.map fun _ => idleReport d, d⟩ := by
  induction policies generalizing reports with
  | nil => simp [Pass.runFrom]
  | cons policy rest ih =>
    rw [Pass.runFrom, hidle policy]
    dsimp only
    rw [ih, List.append_assoc]
    rfl

/-- The first conversion of a pass does all there is to do. -/
theorem run_pass (h : d.WellFormed) (policy : Policy) (rest : List Policy) :
    (Pass.mk (policy :: rest)).run d =
      .ok ⟨(policy.convertAudio d).1 ::
        rest.map fun _ => idleReport (policy.convertAudio d).2, (policy.convertAudio d).2⟩ := by
  rw [Pass.run, if_neg (by simp [Pass.isEmpty]), Pass.runFrom]
  dsimp only
  rw [runFrom_idle (convertAudio_convertAudio h policy)]
  rfl

/-- Whatever the history of a document, after one pass every connected audio element stands in an
    island, and no further conversion or pass, under whatever policies, changes the document or
    has anything to report. So only the first conversion of the pass may have changed it, and it
    has left the same document as it would have left alone. -/
theorem reachable_later_conversions_idle (h : Reachable d) (policy : Policy)
    (rest : List Policy) :
    ∃ r, (Pass.mk (policy :: rest)).run d = .ok r ∧
      (∀ n, r.document.isConnected n = true → r.document.isElementNamed n audioTag = true →
        r.document.isInFallbackIsland n = true) ∧
      (∀ policy' : Policy, ∃ report : Report,
        policy'.convertAudio r.document = (report, r.document) ∧ report.IsIdle) ∧
      (∀ policies, policies ≠ [] → ∃ r', (Pass.mk policies).run r.document = .ok r' ∧
        r'.document = r.document ∧ r'.isModified = false ∧
        r'.reports.length = policies.length ∧ ∀ report ∈ r'.reports, report.IsIdle) ∧
      ∃ first later, r.reports = first :: later ∧ later.length = rest.length ∧
        (∀ report ∈ later, report.IsIdle) ∧
        (Pass.mk [policy]).run d = .ok ⟨[first], r.document⟩ := by
  have hwf := h.wellFormed
  have hidle := convertAudio_convertAudio hwf policy
  refine ⟨_, run_pass hwf policy rest, fun n hn hnamed => ?_, fun policy' => ?_,
    fun policies hne => ?_, _, _, rfl, List.length_map _, fun report hreport => ?_,
    run_pass hwf policy []⟩
  · rw [Document.isConnected_iff (wellFormed_convertAudio policy hwf)] at hn
    exact island_of_convertAudio hwf policy hn hnamed
  · exact ⟨_, hidle policy', isIdle_idleReport _⟩
  · refine ⟨⟨policies.map fun _ => idleReport (policy.convertAudio d).2,
      (policy.convertAudio d).2⟩, ?_, rfl, ?_, List.length_map _, fun report hreport => ?_⟩
    · rw [Pass.run, if_neg (by simpa [Pass.isEmpty] using hne), runFrom_idle hidle]
      rfl
    · rw [PassResult.isModified, List.any_map, List.any_eq_false]
      intro policy' _
      rw [Function.comp_apply, (isIdle_idleReport _).unmodified]
      exact Bool.false_ne_true
    · obtain ⟨policy', -, rfl⟩ := List.mem_map.mp hreport
      exact isIdle_idleReport _
  · obtain ⟨policy', -, rfl⟩ := List.mem_map.mp hreport
    exact isIdle_idleReport _

/-- A pass of two conversions, the first of which replaces an element and removes another. -/
theorem reachable_later_conversions_idle_of_two :
    let d := Markup.readMarkup "<audio src=https://a.b/c></audio><p><audio src=http://a.b/c></p>"
    let strict : Policy := {}
    let lax : Policy := { requireHttps := false }
    Reachable d ∧ (strict.convertAudio d).1.isModified = true ∧
    ∃ r, (Pass.mk [strict, lax]).run d = .ok r ∧
      (∀ n, r.document.isConnected n = true → r.document.isElementNamed n audioTag = true →
        r.document.isInFallbackIsland n = true) ∧
      (∀ policy' : Policy, ∃ report : Report,
        policy'.convertAudio r.document = (report, r.document) ∧ report.IsIdle) ∧
      (∀ policies, policies ≠ [] → ∃ r', (Pass.mk policies).run r.document = .ok r' ∧
        r'.document = r.document ∧ r'.isModified = false ∧
        r'.reports.length = policies.length ∧ ∀ report ∈ r'.reports, report.IsIdle) ∧
      ∃ first later, r.reports = first :: later ∧ later.length = 1 ∧
        (∀ report ∈ later, report.IsIdle) ∧
        (Pass.mk [strict]).run d = .ok ⟨[first], r.document⟩ :=
  have h := Reachable.read _
  ⟨h, by decide +kernel, reachable_later_conversions_idle h _ [_]⟩

end Conversion

end AmpMarkup
