import AmpMarkup.Proofs.Conversion.Filter
import AmpMarkup.Proofs.Conversion.SourceUrl
import AmpMarkup.Proofs.Conversion.Verdicts
import Mathlib.Data.List.Flatten

namespace AmpMarkup

/-!
# What a lenient policy keeps

Where sources need not be served over a secure transport, everything is used that would be used if
they had to be, and in the same spelling. Since all decisions are made on the document before the
conversion, no element is lost and no issue comes up that was not there under the strict policy.

* `Relaxes strict lenient` — the policies differ in the demand for a secure transport only.
* `Eased` — how two checks of a URL may end; `Relaxes.checkUrl` — the checks of the policies do.
* `Relaxes.contains_filter`, `Relaxes.usableUrl?`, `Relaxes.sourceIssue?` — what that means for the
  attributes of an element and for its sources.
* `Relaxes.verdict_eq_or`, `Relaxes.issuesOf_sublist` — and for the decision on the element.
* `reachable_lenient_keeps_more` — and for the reports on a document with a history.
-/

variable {α β : Type} {d : Document} {n : NodeId}

/-- If `g` agrees with `f` wherever `f` gives a result, then it leaves at least what `f` leaves. -/
theorem filterMap_sublist {l : List α} {f g : α → Option β}
    (h : ∀ a ∈ l, ∀ b, f a = some b → g a = some b) : (l.filterMap f).Sublist (l.filterMap g) := by
  rw [List.filterMap_eq_flatMap_toList, List.filterMap_eq_flatMap_toList]
  refine List.Sublist.flatMap_right l fun a ha => ?_
  cases hf : f a with
  | none => exact List.nil_sublist _
  | some b => rw [h a ha b hf]

namespace Conversion

variable {strict lenient : Policy} {k : NodeKind}

/-- `lenient` is `strict` without the demand for a secure transport. -/
structure Relaxes (strict lenient : Policy) : Prop where
  demanded : strict.requireHttps = true
  waived : lenient.requireHttps = false
  width_eq : lenient.contentMaxWidth? = strict.contentMaxWidth?

/-- How a check may end if a demand is dropped: what was accepted is accepted as it was, and what is
    still rejected has the same fault as before and is no URL at all. -/
inductive Eased : Except UrlRejection α → Except UrlRejection α → Prop where
  | accepted (url : α) : Eased (.ok url) (.ok url)
  | admitted (rejection : UrlRejection) (url : α) : Eased (.error rejection) (.ok url)
  | rejected {rejection : UrlRejection} : rejection = .empty ∨ rejection = .malformed →
    Eased (.error rejection) (.error rejection)

namespace Eased

variable {r r' : Except UrlRejection α}

/-- What becomes of an accepted URL afterwards does not matter. -/
theorem map (h : Eased r r') (f : α → β) : Eased (r.map f) (r'.map f) := by
  cases h with
  | accepted url => exact accepted (f url)
  | admitted rejection url => exact admitted rejection (f url)
  | rejected hfault => exact rejected hfault

/-- What was accepted is accepted as it was. -/
theorem toOption {url : α} (h : Eased r r') (hr : r.toOption = some url) :
    r'.toOption = some url := by
  cases h with
  | accepted _ => exact hr
  | admitted _ _ => cases hr
  | rejected _ => exact hr

/-- What is still rejected was rejected for the same reason, and for one that no policy waives. -/
theorem error {rejection : UrlRejection} (h : Eased r r') (hr' : r' = .error rejection) :
    r = .error rejection ∧ (rejection = .empty ∨ rejection = .malformed) := by
  cases h with
  | accepted _ => cases hr'
  | admitted _ _ => cases hr'
  | rejected hfault =>
    cases hr'
    exact ⟨rfl, hfault⟩

end Eased

namespace Relaxes

variable (h : Relaxes strict lenient)
include h

/-! ### URLs -/

/-- A trimmed text is checked more easily without the demand: it is read just once for both. -/
theorem checkTrimmed (site : UrlSite) (text : List Char) :
    Eased (strict.checkTrimmed site text) (lenient.checkTrimmed site text) := by
  obtain ⟨r, hr⟩ := exists_checked h.demanded h.waived text
  obtain ⟨hstrict, hchecked⟩ := hr site
  rw [hstrict]
  generalize lenient.checkTrimmed site text = r' at hchecked
  cases hchecked with
  | faulty _ hfault => exact .rejected hfault
  | secure _ => exact .accepted text
  | admitted _ _ => exact .admitted _ _

/-- So is a raw text, whose blanks at the ends are dropped by both policies. -/
theorem checkUrl (site : UrlSite) (raw : String) :
    Eased (strict.checkUrl site raw) (lenient.checkUrl site raw) :=
  (h.checkTrimmed site _).map String.ofList

/-! ### Attributes and sources -/

/-- Every attribute that is left to an element is left to it again. -/
theorem filterEntry? {table : AttributeTable} {e e' : String × String}
    (he : strict.filterEntry? table e = some e') : lenient.filterEntry? table e = some e' := by
  unfold Policy.filterEntry? at he ⊢
  cases hrule : ruleFor table e.1 with
  | url =>
    simp only [hrule] at he ⊢
    obtain ⟨url, hurl, rfl⟩ := Option.map_eq_some_iff.mp he
    rw [(h.checkUrl .attribute e.2).toOption hurl, Option.map_some]
  | length axis =>
    -- Lengths depend on the width of the page, which is the same.
    simp only [hrule] at he ⊢
    have hlength : lenient.normalizeLength? axis e.2 = strict.normalizeLength? axis e.2 := by
      simp only [Policy.normalizeLength?, Policy.normalizeTrimmed?, h.width_eq]
    rw [hlength, he]
  | boolean => simpa only [hrule] using he
  | rename target => simpa only [hrule] using he
  | keep => simpa only [hrule] using he

/-- A name that is left by the strict filter is left by the lenient one. -/
theorem contains_filter {table : AttributeTable} {a : Attributes} {name : String}
    (hname : (strict.filter table a).contains name = true) :
    (lenient.filter table a).contains name = true := by
  rw [Policy.filter, Attributes.contains_ofList, List.any_eq_true] at hname ⊢
  obtain ⟨e', he', hfold⟩ := hname
  obtain ⟨e, he, hentry⟩ := List.mem_filterMap.mp he'
  exact ⟨e', List.mem_filterMap.mpr ⟨e, he, h.filterEntry? hentry⟩, hfold⟩

/-- A source that is usable stays usable, with the same URL. -/
theorem usableUrl? {url : String} (hurl : strict.usableUrl? k = some url) :
    lenient.usableUrl? k = some url := by
  rw [Policy.usableUrl?, Option.bind_eq_some_iff] at hurl ⊢
  obtain ⟨src, hsrc, hcheck⟩ := hurl
  exact ⟨src, hsrc, (h.checkUrl .alternateSource src).toOption hcheck⟩

/-- What has still to be reported about a source had to be reported before, and is that there is no
    URL. -/
theorem sourceIssue? {issue : Issue} (hissue : lenient.sourceIssue? k = some issue) :
    strict.sourceIssue? k = some issue ∧ ∃ src rejection,
      issue = ⟨sourceTag, .insecureSource src rejection⟩ ∧
      (rejection = .empty ∨ rejection = .malformed) := by
  rw [Policy.sourceIssue?, Option.bind_eq_some_iff] at hissue
  obtain ⟨src, hsrc, hcheck⟩ := hissue
  split at hcheck
  · cases hcheck
  · rename_i rejection herror
    obtain ⟨hstrict, hfault⟩ := (h.checkUrl .alternateSource src).error herror
    cases hcheck
    refine ⟨?_, src, rejection, rfl, hfault⟩
    rw [Policy.sourceIssue?, hsrc, Option.bind_some, hstrict]

/-! ### Elements -/

/-- An element with a usable source has one again. -/
theorem hasUsableSource (hsource : strict.hasUsableSource d n = true) :
    lenient.hasUsableSource d n = true := by
  rw [Policy.hasUsableSource, Bool.or_eq_true, List.any_eq_true] at hsource ⊢
  rcases hsource with hattribute | ⟨c, hc, hchild⟩
  · exact .inl (h.contains_filter hattribute)
  · refine .inr ⟨c, hc, ?_⟩
    rw [Option.any_eq_true] at hchild ⊢
    obtain ⟨k, hk, husable⟩ := hchild
    obtain ⟨url, hurl⟩ := Option.isSome_iff_exists.mp husable
    exact ⟨k, hk, Option.isSome_iff_exists.mpr ⟨url, h.usableUrl? hurl⟩⟩

/-- The decision on an element is the same, unless it is no longer removed. -/
theorem verdict_eq_or (d : Document) (n : NodeId) :
    lenient.verdict d n = strict.verdict d n ∨
      (strict.verdict d n = .remove ∧ lenient.verdict d n = .replace) := by
  rw [Policy.verdict, Policy.verdict]
  cases d.isInFallbackIsland n with
  | true =>
    rw [if_pos rfl, if_pos rfl]
    exact .inl rfl
  | false =>
    cases hstrict : strict.hasUsableSource d n with
    | true => exact .inl (by rw [h.hasUsableSource hstrict])
    | false =>
      cases lenient.hasUsableSource d n with
      | true => exact .inr ⟨rfl, rfl⟩
      | false => exact .inl rfl

/-- What is replaced under the strict policy is replaced under the lenient one. -/
theorem verdict_of_replace (hreplace : strict.verdict d n = .replace) :
    lenient.verdict d n = .replace := by
  rcases h.verdict_eq_or d n with heq | ⟨-, heq⟩
  · rw [heq, hreplace]
  · exact heq

/-- What is removed under the lenient policy is removed under the strict one. -/
theorem verdict_of_remove (hremove : lenient.verdict d n = .remove) :
    strict.verdict d n = .remove := by
  rcases h.verdict_eq_or d n with heq | ⟨heq, -⟩
  · rw [← heq, hremove]
  · exact heq

/-- Dropping the demand adds no issues for any element. -/
theorem issuesOf_sublist (d : Document) (n : NodeId) :
    (lenient.issuesOf d n).Sublist (strict.issuesOf d n) := by
  rw [Policy.issuesOf, Policy.issuesOf]
  have hcongr := verdict_eq_skip_congr (d := d) (n := n) lenient strict
  by_cases hskip : strict.verdict d n = .skip
  · rw [if_pos (hcongr.mpr hskip)]
    exact List.nil_sublist _
  · rw [if_neg hskip, if_neg (mt hcongr.mp hskip)]
    apply List.Sublist.append
    · refine filterMap_sublist fun c _ issue hissue => ?_
      obtain ⟨k, hk, hk'⟩ := Option.bind_eq_some_iff.mp hissue
      exact Option.bind_eq_some_iff.mpr ⟨k, hk, (h.sourceIssue? hk').1⟩
    · by_cases hremove : lenient.verdict d n = .remove
      · rw [if_pos hremove, if_pos (h.verdict_of_remove hremove)]
      · rw [if_neg hremove]
        exact List.nil_sublist _

/-- A source is only rejected if there is no URL. -/
theorem rejection_of_mem_issuesOf {tag src : String} {rejection : UrlRejection}
    (hmem : ⟨tag, .insecureSource src rejection⟩ ∈ lenient.issuesOf d n) :
    rejection = .empty ∨ rejection = .malformed := by
  rw [Policy.issuesOf] at hmem
  split at hmem
  · exact absurd hmem List.not_mem_nil
  · rcases List.mem_append.mp hmem with hmem | hmem
    · obtain ⟨c, -, hissue⟩ := List.mem_filterMap.mp hmem
      obtain ⟨k, -, hk⟩ := Option.bind_eq_some_iff.mp hissue
      obtain ⟨-, src', rejection', heq, hfault⟩ := h.sourceIssue? hk
      cases heq
      exact hfault
    · -- The removal of the element is an issue of another kind.
      split at hmem
      · cases List.mem_singleton.mp hmem
      · exact absurd hmem List.not_mem_nil

end Relaxes

/-! ### Reports -/

/-- Whatever the history of a document and the width of the page: without the demand for a secure
    transport the same elements are visited and the same ones are skipped, every element that was
    replaced is replaced again, and all issues were there before, in the same order. What is still
    rejected is no URL. -/
theorem reachable_lenient_keeps_more (h : Reachable d) (policy : Policy) :
    let strict := (Policy.convertAudio { policy with requireHttps := true } d).1
    let lenient := (Policy.convertAudio { policy with requireHttps := false } d).1
    lenient.outcomes.map Prod.fst = strict.outcomes.map Prod.fst ∧
    (∀ n, (n, .skipped) ∈ lenient.outcomes ↔ (n, .skipped) ∈ strict.outcomes) ∧
    (∀ n r, (n, .replaced r) ∈ strict.outcomes → ∃ r', (n, .replaced r') ∈ lenient.outcomes) ∧
    lenient.issues.Sublist strict.issues ∧
    ∀ tag src rejection, ⟨tag, .insecureSource src rejection⟩ ∈ lenient.issues →
      rejection = .empty ∨ rejection = .malformed := by
  have hwf := h.wellFormed
  have hrelaxes : Relaxes { policy with requireHttps := true }
    { policy with requireHttps := false } := ⟨rfl, rfl, rfl⟩
  refine ⟨?_, fun n => ?_, fun n r hr => ?_, ?_, fun tag src rejection hmem => ?_⟩
  · rw [map_fst_outcomes hwf, map_fst_outcomes hwf]
  · rw [mem_outcomes_skipped_iff hwf, mem_outcomes_skipped_iff hwf, verdict_eq_skip_congr]
  · obtain ⟨hn, hreplace⟩ := (exists_mem_outcomes_replaced_iff hwf).mp ⟨r, hr⟩
    exact (exists_mem_outcomes_replaced_iff hwf).mpr ⟨hn, hrelaxes.verdict_of_replace hreplace⟩
  · rw [issues_convertAudio hwf, issues_convertAudio hwf]
    exact List.Sublist.flatMap_right _ fun n _ => hrelaxes.issuesOf_sublist d n
  · rw [issues_convertAudio hwf] at hmem
    obtain ⟨n, -, hissue⟩ := List.mem_flatMap.mp hmem
    exact hrelaxes.rejection_of_mem_issuesOf hissue

/-- An element that is saved by its second source; the first one is still rejected. -/
theorem reachable_lenient_keeps_more_of_two_sources :
    let d := Markup.readMarkup "<audio><source src=\"\"><source src=http://a.b/c></audio>"
    let policy : Policy := {}
    let strict := (Policy.convertAudio { policy with requireHttps := true } d).1
    let lenient := (Policy.convertAudio { policy with requireHttps := false } d).1
    Reachable d ∧ strict.issues.length = 3 ∧ lenient.issues.length = 1 ∧
    lenient.outcomes.map Prod.fst = strict.outcomes.map Prod.fst ∧
    (∀ n, (n, .skipped) ∈ lenient.outcomes ↔ (n, .skipped) ∈ strict.outcomes) ∧
    (∀ n r, (n, .replaced r) ∈ strict.outcomes → ∃ r', (n, .replaced r') ∈ lenient.outcomes) ∧
    lenient.issues.Sublist strict.issues ∧
    ∀ tag src rejection, ⟨tag, .insecureSource src rejection⟩ ∈ lenient.issues →
      rejection = .empty ∨ rejection = .malformed := by
  intro d policy strict lenient
  have h : Reachable d := .read _
  have hmain := reachable_lenient_keeps_more h policy
  refine ⟨h, ?_, ?_, hmain⟩
  · decide +kernel
  · decide +kernel

end Conversion

end AmpMarkup
