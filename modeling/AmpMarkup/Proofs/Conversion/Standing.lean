import AmpMarkup.Proofs.Conversion.Survival

namespace AmpMarkup

open Document (root WellFormed)

/-!
# Replacements at the end of a conversion

What a conversion reports can be compared with what it leaves behind: the node that is named as the
replacement of an element is found in the document, and around it all that a replacement has.

* `Policy.Stands` — a connected replacement, read node by node.
* `Replacement.stands` — a connected node that shows a replacement is one.
* `engulfs_iff_mem_outcomes` — what discards a replacement, read off the report.
* `reachable_replacements_stand` — every reported replacement stands, or one of two reasons for its
  being discarded can be found in the document before.
-/

variable {d : Document} {n r x : NodeId}

namespace Conversion

variable {policy : Policy}

/-! ### Replacements node by node -/

/-- `r` stands in the document as a connected replacement: its children `kept` are followed by the
    `island`, and in the island stands the `fallback` alone. -/
structure Policy.Stands (policy : Policy) (d : Document) (r island fallback : NodeId)
    (kept : List NodeId) : Prop where
  connected : d.isConnected r = true
  named : d.isElementNamed r replacementTag = true
  width : d.attribute? r "width" = some "auto"
  /-- There is something to play. -/
  source : d.hasAttribute r "src" = true ∨
    ∃ c ∈ d.children r, d.isElementNamed c sourceTag = true ∧ d.hasAttribute c "src" = true
  children : d.children r = kept ++ [island]
  named_island : d.isElementNamed island fallbackTag = true
  children_island : d.children island = [fallback]
  named_fallback : d.isElementNamed fallback audioTag = true
  /-- The fallback plays the same. -/
  media : ∀ name ∈ mediaAttributes, d.attribute? fallback name = d.attribute? r name
  copies : (d.children fallback).map d.tree = kept.map d.tree
  /-- All that is to be played may be loaded, as it stands. -/
  secure : policy.requireHttps = true → ∀ top ∈ [r, fallback], ∀ n,
    n = top ∨ (n ∈ d.children top ∧ d.isElementNamed n sourceTag = true) →
    ∀ url, d.attribute? n "src" = some url → ∀ site, policy.checkUrl site url = .ok url

/-- A node shows the URL of a source if it is one. -/
theorem sourceUrl?_tree_iff (h : d.WellFormed) (hx : d.contains x = true) {url : String} :
    sourceUrl? (d.tree x).kind = some url ↔
      d.isElementNamed x sourceTag = true ∧ d.attribute? x "src" = some url := by
  obtain ⟨k, hk⟩ := Document.exists_kind? hx
  rw [Document.tree_kind h hk, Tree.kind, sourceUrl?, Document.isElementNamed_of_kind? hk,
    Document.attribute?, Document.attributes?, hk, Option.bind_some]
  cases k.isNamed sourceTag <;> simp

/-- The URLs of the sources among some nodes can be read off their trees. -/
theorem exists_source_iff {cs : List NodeId} {ts : List Tree} (h : d.WellFormed)
    (hcs : ∀ c ∈ cs, d.contains c = true) (hts : cs.map d.tree = ts) {url : String} :
    (∃ t ∈ ts, sourceUrl? t.kind = some url) ↔
      ∃ c ∈ cs, d.isElementNamed c sourceTag = true ∧ d.attribute? c "src" = some url := by
  rw [← hts]
  constructor
  · rintro ⟨t, ht, hurl⟩
    obtain ⟨c, hc, rfl⟩ := List.mem_map.mp ht
    exact ⟨c, hc, (sourceUrl?_tree_iff h (hcs c hc)).mp hurl⟩
  · rintro ⟨c, hc, hurl⟩
    exact ⟨_, List.mem_map_of_mem hc, (sourceUrl?_tree_iff h (hcs c hc)).mpr hurl⟩

/-- The nodes that show the parts of the replacement `s`. -/
structure Replacement.IsAt (s : Replacement policy) (d : Document) (r island fallback : NodeId)
    (kept : List NodeId) : Prop where
  kind : d.kind? r = some (.ofElement replacementTag s.attributes)
  children : d.children r = kept ++ [island]
  trees : kept.map d.tree = s.kept
  kind_island : d.kind? island = some (.ofElement fallbackTag .empty)
  children_island : d.children island = [fallback]
  kind_fallback : d.kind? fallback = some (.element s.tag s.fallback)
  trees_fallback : (d.children fallback).map d.tree = s.kept

/-- The nodes are found from the top of the tree to the fallback. -/
theorem Replacement.exists_isAt (s : Replacement policy) (h : d.WellFormed)
    (hr : d.contains r = true) (ht : d.tree r = s.tree) :
    ∃ island fallback kept, s.IsAt d r island fallback kept := by
  obtain ⟨hkind, htrees⟩ := Document.kind?_of_tree_eq h hr ht
  obtain ⟨kept, rest, hchildren, hkept, hrest⟩ := List.map_eq_append_iff.mp htrees
  obtain ⟨island, rfl, hisland⟩ := List.map_eq_singleton_iff.mp hrest
  have hmem : island ∈ d.children r := by simp [hchildren]
  obtain ⟨hkindI, htreesI⟩ := Document.kind?_of_tree_eq h (h.contains_child hmem) hisland
  obtain ⟨fallback, hchildrenI, hfallback⟩ := List.map_eq_singleton_iff.mp htreesI
  have hmemF : fallback ∈ d.children island := by simp [hchildrenI]
  obtain ⟨hkindF, htreesF⟩ := Document.kind?_of_tree_eq h (h.contains_child hmemF) hfallback
  exact ⟨island, fallback, kept, hkind, hchildren, hkept, hkindI, hchildrenI, hkindF, htreesF⟩

namespace Replacement.IsAt

variable {s : Replacement policy} {island fallback : NodeId} {kept : List NodeId}

/-- The fallback refers to the same media as the replacement. -/
theorem media (hat : s.IsAt d r island fallback kept) {name : String}
    (hname : name ∈ mediaAttributes) : d.attribute? fallback name = d.attribute? r name := by
  rw [Document.attribute?_of_kind? hat.kind_fallback, Document.attribute?_of_kind? hat.kind,
    s.media name hname]

/-- The sources among the children of the replacement are those that the replacement has. -/
theorem exists_source_iff (hat : s.IsAt d r island fallback kept) (h : d.WellFormed)
    {url : String} :
    (∃ t ∈ s.kept, sourceUrl? t.kind = some url) ↔ ∃ c ∈ d.children r,
      d.isElementNamed c sourceTag = true ∧ d.attribute? c "src" = some url := by
  have hlive : ∀ c ∈ kept, d.contains c = true := fun c hc =>
    h.contains_child (hat.children ▸ List.mem_append_left [island] hc)
  rw [Conversion.exists_source_iff h hlive hat.trees, hat.children]
  constructor
  · rintro ⟨c, hc, hsource⟩
    exact ⟨c, List.mem_append_left [island] hc, hsource⟩
  · rintro ⟨c, hc, hnamed, hsrc⟩
    rcases List.mem_append.mp hc with hc | hc
    · exact ⟨c, hc, hnamed, hsrc⟩
    · -- The island is not a source.
      rw [List.mem_singleton.mp hc, Document.isElementNamed_of_kind? hat.kind_island,
        isNamed_eq_false (isNamed_ofElement fallbackTag .empty)
          (Text.fold_ne (by decide))] at hnamed
      exact Bool.noConfusion hnamed

/-- The fallback has the same ones. -/
theorem exists_source_iff_fallback (hat : s.IsAt d r island fallback kept) (h : d.WellFormed)
    {url : String} :
    (∃ t ∈ s.kept, sourceUrl? t.kind = some url) ↔ ∃ c ∈ d.children fallback,
      d.isElementNamed c sourceTag = true ∧ d.attribute? c "src" = some url :=
  Conversion.exists_source_iff h (fun _ hc => h.contains_child hc) hat.trees_fallback

/-- The replacement has a URL, or a source with one among its children. -/
theorem source (hat : s.IsAt d r island fallback kept) (h : d.WellFormed) :
    d.hasAttribute r "src" = true ∨
      ∃ c ∈ d.children r, d.isElementNamed c sourceTag = true ∧ d.hasAttribute c "src" = true := by
  rw [Document.hasAttribute_eq, Document.attribute?_of_kind? hat.kind]
  rcases s.source with hown | ⟨t, ht, hsource⟩
  · exact .inl hown
  · obtain ⟨url, hurl⟩ := Option.isSome_iff_exists.mp hsource
    obtain ⟨c, hc, hnamed, hsrc⟩ := (hat.exists_source_iff h).mp ⟨t, ht, hurl⟩
    refine .inr ⟨c, hc, hnamed, ?_⟩
    rw [Document.hasAttribute_eq, hsrc, Option.isSome_some]

/-- What the replacement or the fallback plays is what may be loaded. -/
theorem secure (hat : s.IsAt d r island fallback kept) (h : d.WellFormed)
    (hhttps : policy.requireHttps = true) {top : NodeId} (htop : top ∈ [r, fallback])
    (hn : n = top ∨ (n ∈ d.children top ∧ d.isElementNamed n sourceTag = true)) {url : String}
    (hurl : d.attribute? n "src" = some url) (site : UrlSite) :
    policy.checkUrl site url = .ok url := by
  apply s.secure hhttps url
  rw [List.mem_pair] at htop
  rcases hn with rfl | ⟨hn, hnamed⟩
  · refine .inl ?_
    rw [← Document.attribute?_of_kind? hat.kind, ← hurl]
    rcases htop with rfl | rfl
    · rfl
    · exact (hat.media (by decide)).symm
  · refine .inr ?_
    rcases htop with rfl | rfl
    · exact (hat.exists_source_iff h).mpr ⟨n, hn, hnamed, hurl⟩
    · exact (hat.exists_source_iff_fallback h).mpr ⟨n, hn, hnamed, hurl⟩

end Replacement.IsAt

/-- A connected node that shows a replacement stands as one. -/
theorem Replacement.stands (s : Replacement policy) (h : d.WellFormed) (hroot : d.Below r root)
    (ht : d.tree r = s.tree) : ∃ island fallback kept, policy.Stands d r island fallback kept := by
  have hlive : d.contains r = true := hroot.contains_lower h.contains_root
  obtain ⟨island, fallback, kept, hat⟩ := s.exists_isAt h hlive ht
  refine ⟨island, fallback, kept, {
    connected := (Document.isConnected_iff h).mpr hroot
    named := ?_
    width := ?_
    source := hat.source h
    children := hat.children
    named_island := ?_
    children_island := hat.children_island
    named_fallback := ?_
    media := fun name hname => hat.media hname
    copies := hat.trees_fallback.trans hat.trees.symm
    secure := fun hhttps top htop n hn url hurl => hat.secure h hhttps htop hn hurl }⟩
  · rw [Document.isElementNamed_of_kind? hat.kind]
    exact isNamed_ofElement replacementTag s.attributes
  · rw [Document.attribute?_of_kind? hat.kind, s.width]
  · rw [Document.isElementNamed_of_kind? hat.kind_island]
    exact isNamed_ofElement fallbackTag .empty
  · rw [Document.isElementNamed_of_kind? hat.kind_fallback]
    exact s.named

/-! ### All replacements -/

/-- `c` is a source with a URL that is rejected. -/
def Policy.IsRejectedSource (policy : Policy) (d : Document) (c : NodeId) : Prop :=
  d.isElementNamed c sourceTag = true ∧
    ∃ src rejection, d.attribute? c "src" = some src ∧
      policy.checkUrl .alternateSource src = .error rejection

/-- The children that do not stay are the rejected sources. -/
theorem keeps_eq_false_iff : policy.keeps d x = false ↔ policy.IsRejectedSource d x := by
  rw [Policy.keeps, Policy.IsRejectedSource]
  cases hk : d.kind? x with
  | none => simp [Document.isElementNamed, hk]
  | some k =>
    rw [Option.bind_some, Policy.sourceIssue?, sourceUrl?, Document.isElementNamed_of_kind? hk,
      Document.attribute?, Document.attributes?, hk, Option.bind_some]
    cases k.isNamed sourceTag with
    | false => simp
    | true =>
      cases hsrc : k.attributes?.bind (·.get? "src") with
      | none => simp
      | some src => cases hcheck : policy.checkUrl .alternateSource src <;> simp [hcheck]

/-- What discards an element that is replaced, in terms of the report. -/
theorem engulfs_iff_mem_outcomes (h : d.WellFormed)
    (hn : (n, .replaced r) ∈ (policy.convertAudio d).1.outcomes) :
    (∃ m ∈ d.elementsNamed audioTag, policy.Engulfs d m n) ↔
      ∃ m o, (m, o) ∈ (policy.convertAudio d).1.outcomes ∧
        ((o = .removed ∧ d.isAncestor m n = true) ∨
          (o ≠ .skipped ∧
            ∃ c ∈ d.children m, policy.IsRejectedSource d c ∧ d.isAncestor c n = true)) := by
  obtain ⟨hnmem, hnverdict⟩ := verdict_of_mem_outcomes h hn
  have hnamed : d.isElementNamed n audioTag = true := (List.mem_filter.mp hnmem).2
  -- The element itself is neither removed nor a source.
  have hremoved : ∀ m, policy.verdict d m = .remove → n ≠ m := by
    rintro m hm rfl
    rw [hm] at hnverdict
    exact Verdict.noConfusion hnverdict
  have hsource : ∀ c, policy.IsRejectedSource d c → n ≠ c := by
    rintro c hc rfl
    obtain ⟨k, hk, hk'⟩ := Document.kind_of_isElementNamed hnamed
    have hother := isNamed_eq_false (b := sourceTag) hk' (Text.fold_ne (by decide))
    rw [← Document.isElementNamed_of_kind? hk, hc.1] at hother
    exact Bool.noConfusion hother
  have hverdict : ∀ o : Outcome, (o = .removed ↔ o.verdict = .remove) ∧
      (o ≠ .skipped ↔ o.verdict ≠ .skip) := by
    intro o
    cases o <;> simp [Outcome.verdict]
  constructor
  · rintro ⟨m, hm, he⟩
    obtain ⟨o, ho, hov⟩ := exists_mem_outcomes policy h hm
    refine ⟨m, o, ho, ?_⟩
    rcases he with ⟨hremove, hnm⟩ | ⟨hskip, c, hc, hdrop, hnc⟩
    · refine .inl ⟨(hverdict o).1.mpr (hov.trans hremove), ?_⟩
      exact (Document.isAncestor_iff_below h).mpr ⟨hnm, hremoved m hremove⟩
    · have hrejected := keeps_eq_false_iff.mp hdrop
      refine .inr ⟨(hverdict o).2.mpr (hov ▸ hskip), c, hc, hrejected, ?_⟩
      exact (Document.isAncestor_iff_below h).mpr ⟨hnc, hsource c hrejected⟩
  · rintro ⟨m, o, ho, hcase⟩
    obtain ⟨hm, hov⟩ := verdict_of_mem_outcomes h ho
    refine ⟨m, hm, ?_⟩
    rcases hcase with ⟨hremove, hnm⟩ | ⟨hskip, c, hc, hrejected, hnc⟩
    · exact .inl ⟨hov ▸ (hverdict o).1.mp hremove, ((Document.isAncestor_iff_below h).mp hnm).1⟩
    · exact .inr ⟨hov ▸ (hverdict o).2.mp hskip, c, hc, keeps_eq_false_iff.mpr hrejected,
        ((Document.isAncestor_iff_below h).mp hnc).1⟩

/-- Whatever the history of a document, a replacement that is reported has been discarded in the end
    exactly if the replaced element stood in an element that is removed, or in a rejected source
    directly inside an element that is not skipped. Otherwise it stands in the document, with
    something to play and with a fallback at its end that plays the same. -/
theorem reachable_replacements_stand (h : Reachable d) (policy : Policy)
    (hn : (n, .replaced r) ∈ (policy.convertAudio d).1.outcomes) :
    r.index < (policy.convertAudio d).2.size ∧
    ((policy.convertAudio d).2.contains r = false ↔
      ∃ m o, (m, o) ∈ (policy.convertAudio d).1.outcomes ∧
        ((o = .removed ∧ d.isAncestor m n = true) ∨
          (o ≠ .skipped ∧
            ∃ c ∈ d.children m, policy.IsRejectedSource d c ∧ d.isAncestor c n = true))) ∧
    ((policy.convertAudio d).2.contains r = true →
      ∃ island fallback kept,
        policy.Stands (policy.convertAudio d).2 r island fallback kept) := by
  have hwf := h.wellFormed
  rcases outlived_of_mem_outcomes hwf (visitable_elementsNamed hwf) hn with
    hnil | ⟨-, hout⟩
  · exact absurd hnil List.not_mem_nil
  · refine ⟨hout.index_lt, ?_, fun hlive => ?_⟩
    · rw [← engulfs_iff_mem_outcomes hwf hn]
      refine hout.discarded_iff.trans ?_
      simp only [List.mem_reverse]
    · obtain ⟨s, hs⟩ := hout.tree hlive
      exact s.stands (wellFormed_convertAudio policy hwf) (hout.connected hlive) hs

/-- An element inside another one, which marks its replacement, and one inside an element that is
    removed. -/
theorem reachable_replacements_stand_nested :
    let d := Markup.readMarkup <|
      "<audio src=//a.b/c><audio><source src=http://a.b/d><source src=//a.b/d></audio></audio>" ++
      "<audio><audio src=//a.b/e></audio></audio>"
    let policy : Policy := {}
    let n : NodeId := ⟨2⟩
    let r : NodeId := ⟨12⟩
    Reachable d ∧ (n, .replaced r) ∈ (policy.convertAudio d).1.outcomes ∧
    (policy.convertAudio d).2.contains r = true ∧
    r.index < (policy.convertAudio d).2.size ∧
    ((policy.convertAudio d).2.contains r = false ↔
      ∃ m o, (m, o) ∈ (policy.convertAudio d).1.outcomes ∧
        ((o = .removed ∧ d.isAncestor m n = true) ∨
          (o ≠ .skipped ∧
            ∃ c ∈ d.children m, policy.IsRejectedSource d c ∧ d.isAncestor c n = true))) ∧
    ((policy.convertAudio d).2.contains r = true →
      ∃ island fallback kept,
        policy.Stands (policy.convertAudio d).2 r island fallback kept) := by
  intro d policy n r
  have h : Reachable d := .read _
  have hfacts : (n, .replaced r) ∈ (policy.convertAudio d).1.outcomes ∧
      (policy.convertAudio d).2.contains r = true := by decide +kernel
  obtain ⟨hn, hr⟩ := hfacts
  exact ⟨h, hn, hr, reachable_replacements_stand h policy hn⟩

end Conversion

end AmpMarkup
