import AmpMarkup.Proofs.Conversion.Course
import AmpMarkup.Proofs.Conversion.Later
import AmpMarkup.Proofs.Conversion.Verdicts
import AmpMarkup.Proofs.Document.Refusals

namespace AmpMarkup

open Document (IsDiscarded Later WellFormed)

/-!
# What is left of a discarded handle

Nothing: in a well-formed document a discarded node is in no list and above no node, new nodes get
other handles, and edits that are given the handle are refused. Since discarded nodes stay so, this
holds from then on.

* `IsDiscarded.not_mem_children` and its like — the node is not read anywhere.
* `Edit.Answers.fails`, `Edit.Fails.bind_of_keeps` — how an edit is seen to fail.
* `Action.fails_of_discarded` — every action that is given the handle is refused.
* `Forgets.of_discarded` — all of it together.
* `reachable_handles_stable` — what becomes of the handles to a document with a history.
-/

variable {α β : Type} {d d' : Document} {m n p x : NodeId}

/-! ### Readings -/

namespace Document.IsDiscarded

/-- A discarded node is not listed under any node. -/
theorem not_mem_children (hn : d.IsDiscarded n) (h : d.WellFormed) (m : NodeId) :
    n ∉ d.children m := by
  intro hmem
  exact ne_of_contains hn.2 (h.contains_child hmem) rfl

/-- A discarded node is not the parent of any node. -/
theorem parent?_ne (hn : d.IsDiscarded n) (h : d.WellFormed) (m : NodeId) :
    d.parent? m ≠ some n := by
  intro hpar
  exact ne_of_contains hn.2 (h.contains_parent hpar) rfl

/-- A discarded node is not found below any node. -/
theorem not_mem_descendants (hn : d.IsDiscarded n) (h : d.WellFormed) (m : NodeId) :
    n ∉ d.descendants m := by
  intro hmem
  obtain ⟨hbelow, hne⟩ := (mem_descendants_iff h).mp hmem
  rcases hbelow.cases_parent with heq | ⟨p, hp, -⟩
  · exact hne heq
  · exact ne_of_contains hn.2 (contains_of_parent? hp) rfl

/-- The next node that is created is not the discarded one. -/
theorem ne_nextId (hn : d.IsDiscarded n) : d.nextId ≠ n := by
  rintro rfl
  exact Nat.lt_irrefl d.size hn.1

end Document.IsDiscarded

/-! ### Causes of failure -/

namespace Document.IsDiscarded

variable (hn : d.IsDiscarded n)
include hn

/-- Appending has a reason to fail if either handle is discarded. -/
theorem exists_attachCause {p c : NodeId} (hmem : n ∈ [p, c]) :
    ∃ e ∈ d.attachCauses p c, e.1 = true := by
  rw [attachCauses]
  rcases List.mem_pair.mp hmem with rfl | rfl
  · exact ⟨(!d.contains n, .missingNode n), by simp, by simp [hn.2]⟩
  · exact ⟨(!d.contains n, .missingNode n), by simp, by simp [hn.2]⟩

/-- A node is not taken out of a discarded parent, which has no children any more. -/
theorem exists_removeCause (h : d.WellFormed) {p c : NodeId} (hmem : n ∈ [p, c]) :
    ∃ e ∈ d.removeCauses p c, e.1 = true := by
  rw [removeCauses]
  rcases List.mem_pair.mp hmem with rfl | rfl
  · refine ⟨(d.parent? c ≠ some n, .notAChild n c), by simp, ?_⟩
    exact decide_eq_true (hn.parent?_ne h c)
  · exact ⟨(!d.contains n, .missingNode n), by simp, by simp [hn.2]⟩

/-- Inserting has a reason to fail if any of the three handles is discarded. -/
theorem exists_insertCause (h : d.WellFormed) {p c before : NodeId}
    (hmem : n ∈ [p, c, before]) : ∃ e ∈ d.insertCauses p c before, e.1 = true := by
  rw [insertCauses]
  by_cases hpair : n ∈ [p, c]
  · obtain ⟨e, he, htrue⟩ := hn.exists_attachCause hpair
    exact ⟨e, List.mem_append_left _ he, htrue⟩
  · obtain rfl : n = before := by
      simp only [List.mem_cons, List.not_mem_nil, or_false, not_or] at hmem hpair
      tauto
    refine ⟨_, List.mem_append_right _ (List.mem_singleton_self _), ?_⟩
    rw [Bool.not_eq_true', List.contains_eq_mem]
    exact decide_eq_false (hn.not_mem_children h p)

/-- Replacing has a reason to fail if any of the three handles is discarded. -/
theorem exists_replaceCause (h : d.WellFormed) {p new old : NodeId}
    (hmem : n ∈ [p, new, old]) : ∃ e ∈ d.replaceCauses p new old, e.1 = true := by
  rw [replaceCauses]
  by_cases hpair : n ∈ [p, old]
  · obtain ⟨e, he, htrue⟩ := hn.exists_removeCause h hpair
    exact ⟨e, List.mem_append_left _ he, htrue⟩
  · have hnew : n ∈ [p, new] := by
      simp only [List.mem_cons, List.not_mem_nil, or_false, not_or] at hmem hpair ⊢
      tauto
    obtain ⟨e, he, htrue⟩ := hn.exists_attachCause hnew
    exact ⟨e, List.mem_append_right _ he, htrue⟩

end Document.IsDiscarded

namespace Edit

/-! ### Failures -/

/-- An edit fails if any of its conditions holds. -/
theorem Answers.fails {e : Edit α} {causes : List (Bool × EditError)} (h : Answers e d causes)
    (hcause : ∃ c ∈ causes, c.1 = true) : e.Fails d := by
  have hfound : (firstCause? causes).isSome = true := by
    rw [firstCause?, Option.isSome_map, List.find?_isSome]
    exact hcause
  obtain ⟨first, hfirst⟩ := Option.isSome_iff_exists.mp hfound
  rw [Answers, hfirst] at h
  exact ⟨first, d, h⟩

/-- An edit fails if its first part fails. -/
theorem Fails.bind {e : Edit α} (h : e.Fails d) (f : α → Edit β) : (e >>= f).Fails d := by
  obtain ⟨cause, d', hrun⟩ := h
  exact ⟨cause, d', run_bind_error hrun⟩

/-- An edit fails if, wherever its first part leads, what follows fails. -/
theorem Fails.bind_of_keeps {P : Document → Prop} {e : Edit α} {f : α → Edit β}
    (he : Keeps P e) (hf : ∀ a d, P d → (f a).Fails d) (hd : P d) : (e >>= f).Fails d := by
  cases hrun : e.run d with
  | error cause d' => exact ⟨cause, d', run_bind_error hrun⟩
  | ok a d' =>
    have hkept := he d hd
    rw [exec_of_ok hrun] at hkept
    obtain ⟨cause, d'', hfail⟩ := hf a d' hkept
    exact ⟨cause, d'', by rw [run_bind_ok hrun, hfail]⟩

/-- A discarded node of a well-formed document stays one. -/
theorem keeps_isDiscarded {e : Edit α} (hwf : Keeps WellFormed e)
    (hlater : ∀ d, Keeps (Later d) e) (n : NodeId) :
    Keeps (fun d => d.WellFormed ∧ d.IsDiscarded n) e := by
  rintro d ⟨h, hn⟩
  exact ⟨hwf d h, (hlater d d (.refl d)).isDiscarded hn⟩

/-! ### Edits with a discarded handle -/

/-- Appending fails if either handle is discarded. -/
theorem fails_appendChild (h : d.WellFormed) (hn : d.IsDiscarded n) {p c : NodeId}
    (hmem : n ∈ [p, c]) : (appendChild p c).Fails d :=
  (answers_appendChild h p c).fails (hn.exists_attachCause hmem)

/-- The handle may come up late, but nothing that is done before makes the node come back. -/
theorem fails_wrapWithFallback (h : d.WellFormed) (hn : d.IsDiscarded n) {source r f : NodeId}
    (hmem : n ∈ [source, r, f]) : (wrapWithFallback source r f).Fails d := by
  cases hpar : d.parent? source with
  | none => exact ⟨.missingNode source, d, by simp [wrapWithFallback, hpar]⟩
  | some p =>
    have hsource : n ≠ source :=
      Document.ne_of_contains hn.2 (Document.contains_of_parent? hpar)
    have hrun : (wrapWithFallback source r f).run d = (do
        let island ← createElement fallbackTag
        appendChild r island
        let _ ← replaceChild p r source
        appendChild island f
        return island : Edit NodeId).run d := by
      rw [wrapWithFallback, run_bind_ok (EStateM.run_get d), hpar]
    rw [Fails, hrun, ← Fails]
    have hlater := fun d => keptByEdits_later d
    refine Fails.bind_of_keeps (keeps_isDiscarded (keeps_wellFormed_create _)
      (fun d => (keptBySlots_later d).create _) n) (fun island d hd => ?_) ⟨h, hn⟩
    by_cases hr : n = r
    · exact (fails_appendChild hd.1 hd.2 (hr ▸ List.mem_cons_self)).bind _
    · have hf : n = f := by
        simp only [List.mem_cons, List.not_mem_nil, or_false] at hmem
        tauto
      refine Fails.bind_of_keeps (keeps_isDiscarded (keeps_wellFormed_appendChild r island)
        (fun d => (hlater d).appendChild r island) n) (fun _ d hd => ?_) hd
      refine Fails.bind_of_keeps (keeps_isDiscarded (keeps_wellFormed_replaceChild p r source)
        (fun d => (hlater d).replaceChild p r source) n) (fun _ d hd => ?_) hd
      exact (fails_appendChild hd.1 hd.2 (hf ▸ by simp)).bind _

end Edit

namespace Conversion

open Edit

/-- Every action that is given the handle of a discarded node is refused, or it asks for the
    children of the node, of which there are none. -/
theorem Action.fails_of_discarded (h : d.WellFormed) (hn : d.IsDiscarded n) {a : Action}
    (hmem : n ∈ a.handles) :
    a.Fails d ∨ a = .detachChildren n ∧ (Edit.detachChildren n).run d = .ok [] d := by
  have hcopy : ∃ e ∈ d.copyCauses n, e.1 = true := by simp [Document.copyCauses, hn.2]
  have hmove : ∃ e ∈ d.moveCauses n, e.1 = true := by simp [Document.moveCauses, hn.2]
  have hattribute : ∃ e ∈ d.attributeCauses n, e.1 = true := by
    simp [Document.attributeCauses, hn.2]
  cases a with
  | createElement | createText | createComment | convertAudio => exact absurd hmem List.not_mem_nil
  | appendChild p c => exact .inl (fails_appendChild h hn hmem)
  | insertBefore p c before =>
    exact .inl ((answers_insertBefore h p c before).fails (hn.exists_insertCause h hmem))
  | removeChild p c =>
    exact .inl ((answers_removeChild h p c).fails (hn.exists_removeCause h hmem))
  | replaceChild p new old =>
    exact .inl ((answers_replaceChild h p new old).fails (hn.exists_replaceCause h hmem))
  | detach x =>
    obtain rfl := List.mem_singleton.mp hmem
    exact .inl ((answers_detach h n).fails hmove)
  | discard x =>
    obtain rfl := List.mem_singleton.mp hmem
    exact .inl ((answers_discard h n).fails hmove)
  | cloneNode x deep =>
    obtain rfl := List.mem_singleton.mp hmem
    exact .inl ((answers_cloneNode h n deep).fails hcopy)
  | setAttribute x name value =>
    obtain rfl := List.mem_singleton.mp hmem
    exact .inl ((answers_modifyAttributes h n _).fails hattribute)
  | setAttributes x attributes =>
    obtain rfl := List.mem_singleton.mp hmem
    exact .inl ((answers_modifyAttributes h n _).fails hattribute)
  | removeAttribute x name =>
    obtain rfl := List.mem_singleton.mp hmem
    exact .inl ((answers_removeAttribute h n name).fails hattribute)
  | detachChildren x =>
    obtain rfl := List.mem_singleton.mp hmem
    refine .inr ⟨rfl, ?_⟩
    rw [Edit.detachChildren, run_bind_ok (EStateM.run_get d),
      Document.children_eq_nil_of_not_contains hn.2]
    rfl
  | wrapWithFallback source r f => exact .inl (fails_wrapWithFallback h hn hmem)

/-! ### Reports -/

/-- Elements that are visited are live, and what they are replaced by is new. -/
theorem not_mentions_convertAudio (h : d.WellFormed) (hn : d.IsDiscarded n) (policy : Policy) :
    ¬ (policy.convertAudio d).1.Mentions n := by
  rintro ⟨⟨x, outcome⟩, ho, rfl | rfl⟩
  · obtain ⟨hx, -⟩ := verdict_of_mem_outcomes h ho
    exact hn.not_mem_descendants h Document.root (List.mem_filter.mp hx).1
  · have hle := (course_convertAudio h policy).size_le_of_replaced ho
    have hlt := hn.1
    omega

/-- No conversion of a pass mentions the node, since it is discarded before each of them. -/
theorem not_mentions_runFrom (policies : List Policy) {reports : List Report} (h : d.WellFormed)
    (hn : d.IsDiscarded n) (hreports : ∀ report ∈ reports, ¬ report.Mentions n) :
    ∀ report ∈ (Pass.runFrom reports d policies).reports, ¬ report.Mentions n := by
  induction policies generalizing d reports with
  | nil => exact hreports
  | cons policy rest ih =>
    refine ih (wellFormed_convertAudio policy h)
      ((later_run (.convertAudio policy) d).isDiscarded hn) fun report hmem => ?_
    rcases List.mem_append.mp hmem with hmem | hmem
    · exact hreports report hmem
    · rw [List.mem_singleton.mp hmem]
      exact not_mentions_convertAudio h hn policy

/-! ### All of it -/

/-- A copy gets the next handle. -/
theorem copy_eq_nextId (h : d.WellFormed) {deep : Bool}
    (hrun : (Edit.cloneNode x deep).run d = .ok m d') : m = d.nextId := by
  have hx : d.contains x = true := by
    by_contra hx
    obtain ⟨cause, d₁, hfail⟩ := (answers_cloneNode h x deep).fails
      (by simp [Document.copyCauses, hx])
    rw [hfail] at hrun
    cases hrun
  cases deep with
  | false =>
    obtain ⟨k, hk⟩ := Document.exists_kind? hx
    rw [run_cloneNode_shallow hk] at hrun
    cases hrun
    rfl
  | true =>
    obtain ⟨d₁, hok, -⟩ := run_cloneNode h hx
    rw [hok] at hrun
    cases hrun
    rfl

/-- A discarded node of a well-formed document is forgotten. -/
theorem Forgets.of_discarded (h : d.WellFormed) (hn : d.IsDiscarded n) : Forgets d n where
  discarded := hn
  not_child := hn.not_mem_children h
  not_parent := hn.parent?_ne h
  not_below := hn.not_mem_descendants h
  not_created k m d' hrun := by
    rw [run_create] at hrun
    cases hrun
    exact hn.ne_nextId
  not_copied x deep m d' hrun := copy_eq_nextId h hrun ▸ hn.ne_nextId
  not_reported p r hrun := by
    rw [Pass.run] at hrun
    split at hrun
    · cases hrun
    · cases hrun
      exact not_mentions_runFrom p.policies h hn fun _ hmem => absurd hmem List.not_mem_nil
  refused a hmem := Action.fails_of_discarded h hn hmem

/-- Handles are stable over every history: what is discarded with a node is so at once, and
    whatever is done from then on, the document has nothing to do with it any more. No slot is ever
    given back, and what stands in one never becomes something else, attributes apart. -/
theorem reachable_handles_stable (h : Reachable d) (actions : List Action) :
    (∀ m d', (Edit.discard m).run d = .ok () d' → ∀ x, d.Below x m → d'.IsDiscarded x) ∧
    d.size ≤ (runAll d actions).size ∧
    (∀ n k k', d.kind? n = some k → (runAll d actions).kind? n = some k' → k'.bare = k.bare) ∧
    ∀ n, d.IsDiscarded n → Forgets (runAll d actions) n := by
  have hwf := h.wellFormed
  have hlater := later_runAll d actions
  refine ⟨fun m d' hrun x hx => ?_, hlater.size_le, fun n k k' => hlater.bare_eq, fun n hn => ?_⟩
  · rcases discard_cases hwf m with ⟨hroot, hm, hok⟩ | ⟨e, herror⟩
    · rw [hok] at hrun
      cases hrun
      refine ⟨?_, Document.not_contains_without hwf hx⟩
      rw [Document.size_without]
      exact Document.index_lt_of_contains (hx.contains_lower hm)
    · exact absurd hrun (run_ne_ok herror)
  · exact .of_discarded (h.runAll actions).wellFormed (hlater.isDiscarded hn)

/-- A paragraph is discarded with the element inside it; then an audio element is converted and
    copies are made. -/
theorem reachable_handles_stable_after_discard :
    let d := runAll (Markup.readMarkup "<p><b>x</b></p><audio src=https://a.b/c><i></i></audio>")
      [.discard ⟨1⟩]
    let d' := runAll d [.convertAudio {}, .cloneNode ⟨0⟩ true, .appendChild ⟨0⟩ ⟨2⟩]
    Reachable d ∧ d.IsDiscarded ⟨2⟩ ∧
    (∀ m d', (Edit.discard m).run d = .ok () d' → ∀ x, d.Below x m → d'.IsDiscarded x) ∧
    d.size ≤ d'.size ∧
    (∀ n k k', d.kind? n = some k → d'.kind? n = some k' → k'.bare = k.bare) ∧
    ∀ n, d.IsDiscarded n → Forgets d' n := by
  intro d d'
  have h : Reachable d := (Reachable.read _).runAll _
  exact ⟨h, by decide +kernel, reachable_handles_stable h _⟩

end Conversion

end AmpMarkup
