import AmpMarkup.Proofs.Conversion.Inheritance

namespace AmpMarkup

open Document (root WellFormed SameAt)

/-!
# The course of a conversion

A conversion goes through the audio elements one after the other. Its course is made of the visits
with their outcomes, and what one visit keeps is kept to the end by induction on the course, from
the front: the elements that are left can still be visited after each visit.

* `Course policy d os d'` — visits with the outcomes `os` lead from `d` to `d'`.
* `course_visits`, `course_convertAudio` — a conversion takes the course that it reports.
* `Course.not_contains` — what is discarded stays so; `Course.size_le_of_replaced` — what takes the
  place of an element is new.
* `Carried`, `Course.carried` — a node that is not discarded, with no element that is left below it,
  keeps what is below it.
-/

variable {d d₁ d' : Document} {m n p r x : NodeId} {R ns : List NodeId}

namespace Conversion

variable {policy : Policy} {outcome : Outcome} {os : List (NodeId × Outcome)}

/-- Visits with the outcomes `os`, in this order, lead from `d` to `d'`. -/
inductive Course (policy : Policy) : Document → List (NodeId × Outcome) → Document → Prop where
  | nil {d : Document} : d.WellFormed → Course policy d [] d
  | cons {d d₁ d' : Document} {n : NodeId} {outcome : Outcome} {os : List (NodeId × Outcome)} :
    d.WellFormed → Visitable d (n :: os.map Prod.fst) → outcome.verdict = policy.verdict d n →
      Visited policy d n outcome d₁ → Course policy d₁ os d' →
      Course policy d ((n, outcome) :: os) d'

/-- Visits take a course whose outcomes are added to the report. -/
theorem course_visits (policy : Policy) (report : Report) (h : d.WellFormed)
    (hv : Visitable d ns) :
    ∃ os, os.map Prod.fst = ns ∧
      (ns.foldl policy.convertOne (report, d)).1.outcomes = report.outcomes ++ os ∧
      Course policy d os (ns.foldl policy.convertOne (report, d)).2 := by
  induction ns generalizing d report with
  | nil => exact ⟨[], rfl, (List.append_nil _).symm, .nil h⟩
  | cons n rest ih =>
    obtain ⟨outcome, d₁, hstep, hverdict, hvisited⟩ := convertOne_eq policy report h hv
    obtain ⟨os, hfst, houtcomes, hcourse⟩ := ih (report.add n outcome (policy.issuesOf d n))
      (hvisited.wellFormed h) (hvisited.visitable h hv)
    rw [List.foldl_cons, hstep]
    refine ⟨(n, outcome) :: os, by rw [List.map_cons, hfst], ?_, ?_⟩
    · rw [houtcomes, Report.add, List.append_assoc]
      rfl
    · exact .cons h (hfst.symm ▸ hv) hverdict hvisited hcourse

/-- A conversion takes the course that it reports. -/
theorem course_convertAudio (h : d.WellFormed) (policy : Policy) :
    Course policy d (policy.convertAudio d).1.outcomes (policy.convertAudio d).2 := by
  obtain ⟨os, -, houtcomes, hcourse⟩ := course_visits policy {} h (visitable_elementsNamed h)
  rw [List.nil_append] at houtcomes
  rw [Policy.convertAudio, houtcomes]
  exact hcourse

namespace Course

/-- The visits start with a well-formed document. -/
theorem wellFormed (hc : Course policy d os d') : d.WellFormed := by
  cases hc with
  | nil h => exact h
  | cons h _ _ _ _ => exact h

/-- The visits end with a well-formed document. -/
theorem wellFormed_end (hc : Course policy d os d') : d'.WellFormed := by
  induction hc with
  | nil h => exact h
  | cons _ _ _ _ _ ih => exact ih

/-- The elements of a course can be visited in its order. -/
theorem visitable (hc : Course policy d os d') : Visitable d (os.map Prod.fst) := by
  cases hc with
  | nil _ => exact ⟨by simp, by simp, .nil⟩
  | cons _ hv _ _ _ => exact hv

end Course

/-- The outcomes are as the verdicts on the document before. -/
theorem Course.verdict_of_mem (hc : Course policy d os d') (ho : (x, outcome) ∈ os) :
    outcome.verdict = policy.verdict d x := by
  induction hc with
  | nil _ => exact absurd ho List.not_mem_nil
  | cons h hv hverdict hvisited _ ih =>
    rcases List.mem_cons.mp ho with heq | ho
    · obtain ⟨rfl, rfl⟩ := Prod.mk.inj heq
      exact hverdict
    · rw [ih ho, (hvisited.verdict_eq h hv (List.mem_map_of_mem ho)).1]

/-- Only elements outside of islands are replaced. -/
theorem Course.isInFallbackIsland_of_mem (hc : Course policy d os d')
    (hr : (x, .replaced r) ∈ os) : d.isInFallbackIsland x = false := by
  by_contra hisland
  rw [Bool.not_eq_false] at hisland
  have hverdict : Verdict.replace = policy.verdict d x := hc.verdict_of_mem hr
  rw [Policy.verdict, if_pos hisland] at hverdict
  exact Verdict.noConfusion hverdict

/-- The way up from an element that is left stays. -/
theorem Visited.below_iff (h : Visited policy d n outcome d') (hwf : d.WellFormed)
    (hv : Visitable d (n :: ns)) (hm : m ∈ ns) : d'.Below m x ↔ d.Below m x := by
  cases h with
  | skipped _ => exact Iff.rfl
  | converted _ hconv => exact hconv.below_iff_outside hwf (hv.tail.contains hm) (hv.not_below hm)

/-! ### Discarded nodes -/

namespace Visited

/-- A visit takes away no slots. -/
theorem size_le (h : Visited policy d n outcome d') : d.size ≤ d'.size := by
  cases h with
  | skipped _ => exact Nat.le_refl d.size
  | converted _ hconv => exact hconv.size_le

/-- A discarded node stays discarded. -/
theorem not_contains (h : Visited policy d n outcome d') (hwf : d.WellFormed)
    (hn : d.contains n = true) (hlt : x.index < d.size) (hx : d.contains x = false) :
    d'.contains x = false := by
  have hne : ∀ {y}, d.contains y = true → x ≠ y := Document.ne_of_contains hx
  cases h with
  | skipped _ => exact hx
  | converted _ hconv =>
    rw [(hconv.same x hlt (hne (hwf.contains_parent hconv.parent)) fun hb => ?_).contains, hx]
    exact hne (hb.contains_lower hn) rfl

end Visited

namespace Course

/-- The visits take away no slots. -/
theorem size_le (hc : Course policy d os d') : d.size ≤ d'.size := by
  induction hc with
  | nil _ => exact Nat.le_refl _
  | cons _ _ _ hvisited _ ih => exact Nat.le_trans hvisited.size_le ih

/-- What an element is replaced by gets a new slot. -/
theorem size_le_of_replaced (hc : Course policy d os d') (hr : (x, .replaced r) ∈ os) :
    d.size ≤ r.index := by
  induction hc with
  | nil _ => exact absurd hr List.not_mem_nil
  | cons _ _ _ hvisited _ ih =>
    rcases List.mem_cons.mp hr with heq | hr
    · obtain ⟨rfl, rfl⟩ := Prod.mk.inj heq
      cases hvisited with
      | converted _ hconv => exact hconv.fresh r (List.mem_singleton_self r)
    · exact Nat.le_trans hvisited.size_le (ih hr)

/-- Slots are never given back. -/
theorem not_contains (hc : Course policy d os d') (hlt : x.index < d.size)
    (hx : d.contains x = false) : d'.contains x = false := by
  induction hc with
  | nil _ => exact hx
  | cons h hv _ hvisited _ ih =>
    apply ih (Nat.lt_of_lt_of_le hlt hvisited.size_le)
    exact hvisited.not_contains h (hv.contains List.mem_cons_self) hlt hx

end Course

/-! ### Nodes that are carried along -/

/-- What is below `x` has been carried along with `x` as it is. -/
structure Carried (d d' : Document) (x : NodeId) : Prop where
  children : d'.children x = d.children x
  same (m : NodeId) : d.Below m x → m ≠ x → SameAt d d' m

namespace Carried

/-- Where nothing happens everything is carried along. -/
theorem refl (d : Document) (x : NodeId) : Carried d d x := ⟨rfl, fun _ _ _ => rfl⟩

/-- What is carried along twice is carried along. -/
theorem trans (h₁ : Carried d d₁ x) (h₂ : Carried d₁ d' x) : Carried d d' x := by
  refine ⟨h₂.children.trans h₁.children, fun m hm hmx => ?_⟩
  have hm₁ : d₁.Below m x := hm.of_parents fun y _ hy hyx => (h₁.same y hy hyx).parent?
  exact (h₁.same m hm hmx).trans (h₂.same m hm₁ hmx)

end Carried

/-- What is left of the nodes inside is below a child that stays. -/
theorem Inside.exists_kept (h : Inside policy d d' n outcome) (hwf : d.WellFormed)
    (hxn : d.Below x n) (hne : x ≠ n) (hlive : d'.contains x = true) :
    ∃ r, Inherited policy d d' n r ∧
      ∃ c ∈ d.children n, policy.keeps d c = true ∧ d.Below x c := by
  have hdead : d'.contains x ≠ false := by simp [hlive]
  cases h with
  | removed hgone => exact absurd (hgone x hxn) hdead
  | @replaced r hinh =>
    rcases hxn.cases_child hwf with heq | ⟨c, hc, hxc⟩
    · exact absurd heq hne
    · refine ⟨r, hinh, c, hc, ?_, hxc⟩
      by_contra hdrop
      exact hdead (hinh.gone c hc (by simpa using hdrop) x hxc)

/-- A node that is not discarded goes through a visit with all that is below it, unless it is above
    the visited element. -/
theorem Visited.carried (h : Visited policy d n outcome d') (hwf : d.WellFormed)
    (hx : d.contains x = true) (hnx : ¬ d.Below n x) (hlive : d'.contains x = true) :
    Carried d d' x := by
  cases h with
  | skipped _ => exact .refl d x
  | converted _ hconv hinside =>
    by_cases hxn : d.Below x n
    · have hne : x ≠ n := fun heq => hnx (heq ▸ Document.below_refl d x)
      obtain ⟨r, hinh, c, hc, hkeep, hxc⟩ := hinside.exists_kept hwf hxn hne hlive
      have hsame := hinh.same_below c hc hkeep
      by_cases hxc' : x = c
      · -- A child that stays may get other attributes, but no other children.
        subst hxc'
        exact ⟨hinh.children x hc hkeep, hsame⟩
      · refine ⟨(hsame x hxc hxc').children, fun m hm _ => hsame m (hm.trans hxc) ?_⟩
        rintro rfl
        exact hxc' (hxc.antisymm hwf hm)
    · have hsame := fun m hm => hconv.sameAt_apart (m := m) hx hxn hnx hm
      exact ⟨(hsame x (Document.below_refl d x)).children, fun m hm _ => hsame m hm⟩

/-- So it goes through all visits to elements that are not below it. -/
theorem Course.carried (hc : Course policy d os d') (hx : d.contains x = true)
    (hlast : ∀ m ∈ os.map Prod.fst, ¬ d.Below m x) (hlive : d'.contains x = true) :
    Carried d d' x := by
  induction hc with
  | nil _ => exact .refl _ x
  | @cons d d₁ d' n outcome os h hv _ hvisited hrest ih =>
    have hnx : ¬ d.Below n x := hlast n List.mem_cons_self
    -- What is discarded on the way is not there at the end.
    have hlive₁ : d₁.contains x = true := by
      by_contra hgone
      rw [Bool.not_eq_true] at hgone
      have hlt := Nat.lt_of_lt_of_le (Document.index_lt_of_contains hx) hvisited.size_le
      rw [hrest.not_contains hlt hgone] at hlive
      exact Bool.noConfusion hlive
    have hcarried := hvisited.carried h hx hnx hlive₁
    refine hcarried.trans (ih hlive₁ (fun m hm => ?_) hlive)
    rw [hvisited.below_iff h hv hm]
    exact hlast m (List.mem_cons_of_mem n hm)

end Conversion

end AmpMarkup
