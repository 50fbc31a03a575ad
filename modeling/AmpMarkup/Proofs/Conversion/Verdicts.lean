import AmpMarkup.Proofs.Conversion.LinkInvariant
import AmpMarkup.Proofs.Conversion.Visits

namespace AmpMarkup

open Document (root WellFormed)

/-!
# The report of a conversion

An element is decided on when the elements after it have been converted already. Since none of
these conversions touches what the decision rests on, the whole report can be read off the document
before the first one.

* `outcomes_visits`, `issues_visits` — the outcomes and the issues of several visits.
* `visits_of_islands` — visits to elements in islands change nothing.
* `reachable_report_determined` — the report on all audio elements of a document.
-/

variable {d : Document} {n : NodeId} {ns : List NodeId}

namespace Conversion

variable {policy : Policy} {report : Report}

/-- An element is skipped exactly if it stands in an island. -/
theorem verdict_eq_skip_iff : policy.verdict d n = .skip ↔ d.isInFallbackIsland n = true := by
  rw [Policy.verdict]
  cases d.isInFallbackIsland n with
  | true => simp
  | false => cases policy.hasUsableSource d n <;> simp

/-- Whether an element is skipped does not depend on the policy. -/
theorem verdict_eq_skip_congr (policy policy' : Policy) :
    policy.verdict d n = .skip ↔ policy'.verdict d n = .skip := by
  rw [verdict_eq_skip_iff, verdict_eq_skip_iff]

/-- Each visit decides as it would have been decided at first. -/
theorem outcomes_visits (h : d.WellFormed) (hv : Visitable d ns) :
    (ns.foldl policy.convertOne (report, d)).1.outcomes.map (fun e => (e.1, e.2.verdict)) =
      report.outcomes.map (fun e => (e.1, e.2.verdict)) ++
        ns.map fun n => (n, policy.verdict d n) := by
  induction ns generalizing d report with
  | nil => simp
  | cons n rest ih =>
    obtain ⟨outcome, d₁, hstep, hverdict, hvisited⟩ :=
      convertOne_eq policy report h hv
    -- The verdicts on what is left do not change with the visit to `n`.
    have hrest : rest.map (fun n => (n, policy.verdict d₁ n)) =
        rest.map fun n => (n, policy.verdict d n) :=
      List.map_congr_left fun b hb => by rw [(hvisited.verdict_eq h hv hb).1]
    rw [List.foldl_cons, hstep, ih (hvisited.wellFormed h) (hvisited.visitable h hv), hrest,
      Report.add, List.map_append, List.map_singleton, hverdict, List.append_assoc]
    rfl

/-- Each visit reports what there was to be reported at first. -/
theorem issues_visits (h : d.WellFormed) (hv : Visitable d ns) :
    (ns.foldl policy.convertOne (report, d)).1.issues =
      report.issues ++ ns.flatMap (policy.issuesOf d) := by
  induction ns generalizing d report with
  | nil => simp
  | cons n rest ih =>
    obtain ⟨outcome, d₁, hstep, -, hvisited⟩ :=
      convertOne_eq policy report h hv
    -- Nor do the issues.
    have hrest : rest.flatMap (policy.issuesOf d₁) = rest.flatMap (policy.issuesOf d) :=
      List.flatMap_congr fun b hb => (hvisited.verdict_eq h hv hb).2
    rw [List.foldl_cons, hstep, ih (hvisited.wellFormed h) (hvisited.visitable h hv), hrest,
      Report.add, List.append_assoc, List.flatMap_cons]

/-- Visits to elements in islands change nothing. -/
theorem visits_of_islands (hislands : ∀ n ∈ ns, d.isInFallbackIsland n = true) :
    ns.foldl policy.convertOne (report, d) =
      ({ report with outcomes := report.outcomes ++ ns.map fun n => (n, .skipped) }, d) := by
  induction ns generalizing report with
  | nil => simp
  | cons n rest ih =>
    have hstep : policy.convertOne (report, d) n = (report.add n .skipped [], d) := by
      rw [Policy.convertOne, run_convert_island (hislands n List.mem_cons_self)]
    rw [List.foldl_cons, hstep, ih fun m hm => hislands m (List.mem_cons_of_mem _ hm), Report.add,
      List.append_nil, List.append_assoc]
    rfl

/-! ### The whole report -/

/-- Every audio element has its verdict as its outcome, and the last one comes first. -/
theorem outcomes_convertAudio (h : d.WellFormed) (policy : Policy) :
    (policy.convertAudio d).1.outcomes.map (fun e => (e.1, e.2.verdict)) =
      (d.elementsNamed audioTag).reverse.map fun n => (n, policy.verdict d n) := by
  rw [Policy.convertAudio, outcomes_visits h (visitable_elementsNamed h)]
  rfl

/-- The outcomes are those of the audio elements, from last to first. -/
theorem map_fst_outcomes (h : d.WellFormed) (policy : Policy) :
    (policy.convertAudio d).1.outcomes.map Prod.fst = (d.elementsNamed audioTag).reverse := by
  have houtcomes := congrArg (List.map Prod.fst) (outcomes_convertAudio h policy)
  simpa [Function.comp_def] using houtcomes

/-- An outcome that is reported is that of an audio element, and as the verdict says. -/
theorem verdict_of_mem_outcomes {o : Outcome} (h : d.WellFormed)
    (ho : (n, o) ∈ (policy.convertAudio d).1.outcomes) :
    n ∈ d.elementsNamed audioTag ∧ o.verdict = policy.verdict d n := by
  have hmem := List.mem_map_of_mem (f := fun e : NodeId × Outcome => (e.1, e.2.verdict)) ho
  rw [outcomes_convertAudio h] at hmem
  obtain ⟨m, hm, heq⟩ := List.mem_map.mp hmem
  obtain ⟨rfl, hverdict⟩ := Prod.mk.inj heq
  exact ⟨List.mem_reverse.mp hm, hverdict.symm⟩

/-- Every audio element has an outcome. -/
theorem exists_mem_outcomes (policy : Policy) (h : d.WellFormed)
    (hn : n ∈ d.elementsNamed audioTag) :
    ∃ o, (n, o) ∈ (policy.convertAudio d).1.outcomes ∧ o.verdict = policy.verdict d n := by
  have hmem : (n, policy.verdict d n) ∈
      (d.elementsNamed audioTag).reverse.map fun n => (n, policy.verdict d n) :=
    List.mem_map.mpr ⟨n, List.mem_reverse.mpr hn, rfl⟩
  rw [← outcomes_convertAudio h] at hmem
  obtain ⟨⟨m, o⟩, ho, heq⟩ := List.mem_map.mp hmem
  obtain ⟨rfl, hverdict⟩ := Prod.mk.inj heq
  exact ⟨o, ho, hverdict⟩

/-- The elements with a certain verdict are those that have such an outcome. -/
theorem exists_mem_outcomes_iff (h : d.WellFormed) {v : Verdict} :
    (∃ o, (n, o) ∈ (policy.convertAudio d).1.outcomes ∧ o.verdict = v) ↔
      n ∈ d.elementsNamed audioTag ∧ policy.verdict d n = v := by
  constructor
  · rintro ⟨o, ho, rfl⟩
    obtain ⟨hn, hverdict⟩ := verdict_of_mem_outcomes h ho
    exact ⟨hn, hverdict.symm⟩
  · rintro ⟨hn, rfl⟩
    exact exists_mem_outcomes policy h hn

/-- Skipped are the audio elements with that verdict, and no others. -/
theorem mem_outcomes_skipped_iff (h : d.WellFormed) :
    (n, .skipped) ∈ (policy.convertAudio d).1.outcomes ↔
      n ∈ d.elementsNamed audioTag ∧ policy.verdict d n = .skip := by
  rw [← exists_mem_outcomes_iff h]
  refine ⟨fun hmem => ⟨.skipped, hmem, rfl⟩, fun ⟨o, ho, hverdict⟩ => ?_⟩
  cases o with
  | skipped => exact ho
  | replaced _ => cases hverdict
  | removed => cases hverdict

/-- Replaced are the audio elements with that verdict, and no others. -/
theorem exists_mem_outcomes_replaced_iff (h : d.WellFormed) :
    (∃ r, (n, .replaced r) ∈ (policy.convertAudio d).1.outcomes) ↔
      n ∈ d.elementsNamed audioTag ∧ policy.verdict d n = .replace := by
  rw [← exists_mem_outcomes_iff h]
  refine ⟨fun ⟨r, hmem⟩ => ⟨.replaced r, hmem, rfl⟩, fun ⟨o, ho, hverdict⟩ => ?_⟩
  cases o with
  | replaced r => exact ⟨r, ho⟩
  | skipped => cases hverdict
  | removed => cases hverdict

/-- The issues are those of the elements, in the order of the visits. -/
theorem issues_convertAudio (h : d.WellFormed) (policy : Policy) :
    (policy.convertAudio d).1.issues =
      (d.elementsNamed audioTag).reverse.flatMap (policy.issuesOf d) := by
  rw [Policy.convertAudio, issues_visits h (visitable_elementsNamed h)]
  rfl

/-- A report speaks of a change exactly if some element was to be converted. -/
theorem isModified_convertAudio (h : d.WellFormed) (policy : Policy) :
    (policy.convertAudio d).1.isModified = true ↔
      ∃ n ∈ d.elementsNamed audioTag, d.isInFallbackIsland n = false := by
  -- Every outcome but one counts as a change.
  have hout : ∀ o : Outcome, o.isModified = true ↔ o.verdict ≠ .skip := by
    intro o
    cases o <;> simp [Outcome.isModified, Outcome.verdict]
  have hlist : (policy.convertAudio d).1.isModified = true ↔
      ∃ e ∈ (policy.convertAudio d).1.outcomes.map fun e => (e.1, e.2.verdict), e.2 ≠ .skip := by
    rw [Report.isModified, List.any_eq_true]
    simp only [List.mem_map, exists_exists_and_eq_and, hout]
  rw [hlist, outcomes_convertAudio h]
  simp only [List.mem_map, List.mem_reverse, exists_exists_and_eq_and, ne_eq, verdict_eq_skip_iff,
    Bool.not_eq_true]

/-- Without an element to be converted the document stays as it is. -/
theorem convertAudio_of_islands
    (hislands : ∀ n ∈ d.elementsNamed audioTag, d.isInFallbackIsland n = true) :
    policy.convertAudio d =
      ({ outcomes := (d.elementsNamed audioTag).reverse.map fun n => (n, .skipped) }, d) := by
  rw [Policy.convertAudio, visits_of_islands fun n hn => hislands n (List.mem_reverse.mp hn)]
  rfl

/-- Whatever the history of a document, its report is determined before anything is converted:
    every audio element is visited once, from last to first, its outcome and its issues are those
    that the document shows, and without an element to be converted nothing changes at all. -/
theorem reachable_report_determined (h : Reachable d) (policy : Policy) :
    (d.elementsNamed audioTag).Nodup ∧
    (policy.convertAudio d).1.outcomes.map (fun e => (e.1, e.2.verdict)) =
      (d.elementsNamed audioTag).reverse.map (fun n => (n, policy.verdict d n)) ∧
    (policy.convertAudio d).1.issues =
      (d.elementsNamed audioTag).reverse.flatMap (policy.issuesOf d) ∧
    ((policy.convertAudio d).1.isModified = false → (policy.convertAudio d).2 = d) ∧
    ((policy.convertAudio d).1.isModified = true →
      ∃ n, d.isConnected n = true ∧ d.isElementNamed n audioTag = true ∧
        d.isInFallbackIsland n = false) := by
  have hwf := h.wellFormed
  have hmodified := isModified_convertAudio hwf policy
  refine ⟨?_, outcomes_convertAudio hwf policy, issues_convertAudio hwf policy, fun hsame => ?_,
    fun hchanged => ?_⟩
  · have hnodup := Document.nodup_subtree hwf root
    rw [Document.subtree_eq_cons_descendants hwf, List.nodup_cons] at hnodup
    exact hnodup.2.filter _
  · rw [convertAudio_of_islands fun n hn => ?_]
    by_contra hisland
    rw [hmodified.mpr ⟨n, hn, by simpa using hisland⟩] at hsame
    exact Bool.noConfusion hsame
  · obtain ⟨n, hn, hisland⟩ := hmodified.mp hchanged
    rw [Document.elementsNamed, List.mem_filter, Document.mem_descendants_iff hwf] at hn
    exact ⟨n, (Document.isConnected_iff hwf).mpr hn.1.1, hn.2, hisland⟩

/-- A document whose only audio element has been moved, and then holds a source that is rejected
    and nothing to play. -/
theorem reachable_report_determined_of_moved :
    let d := runAll (Markup.readMarkup "<p><audio><source src=http://a.b/c></audio></p>")
      [.detach ⟨2⟩, .appendChild ⟨0⟩ ⟨2⟩]
    let policy : Policy := {}
    Reachable d ∧ (policy.convertAudio d).1.isModified = true ∧
    (d.elementsNamed audioTag).Nodup ∧
    (policy.convertAudio d).1.outcomes.map (fun e => (e.1, e.2.verdict)) =
      (d.elementsNamed audioTag).reverse.map (fun n => (n, policy.verdict d n)) ∧
    (policy.convertAudio d).1.issues =
      (d.elementsNamed audioTag).reverse.flatMap (policy.issuesOf d) ∧
    ((policy.convertAudio d).1.isModified = false → (policy.convertAudio d).2 = d) ∧
    ((policy.convertAudio d).1.isModified = true →
      ∃ n, d.isConnected n = true ∧ d.isElementNamed n audioTag = true ∧
        d.isInFallbackIsland n = false) :=
  have h := (Reachable.read _).runAll _
  ⟨h, by decide +kernel, reachable_report_determined h _⟩

end Conversion

end AmpMarkup
