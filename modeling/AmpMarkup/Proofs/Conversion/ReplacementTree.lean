import AmpMarkup.Proofs.Conversion.Preservation
import AmpMarkup.Proofs.Conversion.Visits

namespace AmpMarkup

open AmpMarkup.Text

/-!
# The tree of a replacement

Whatever an audio element looked like, its replacement has the automatic width and something to
play, and at its end it has a fallback that plays the same. A mark that is set later changes none
of this.

* `Replacement policy` — what a replacement is made of; `Replacement.tree` — the tree it shows.
* `exists_replacement` — an audio element is replaced by one.
* `Replacement.mark` — it stays one when it is marked itself.
-/

namespace Conversion

variable {policy : Policy} {k : NodeKind} {a model : Attributes} {ts : List Tree} {t : Tree}

/-- What the replacement of an audio element is made of. -/
structure Replacement (policy : Policy) where
  attributes : Attributes
  /-- The children, apart from the island at the end. -/
  kept : List Tree
  /-- The name of the fallback, which is that of the audio element. -/
  tag : String
  /-- The attributes of the fallback. -/
  fallback : Attributes
  named : (NodeKind.element tag fallback).isNamed audioTag = true
  width : attributes.get? "width" = some "auto"
  source : (attributes.get? "src").isSome = true ∨ ∃ t ∈ kept, (sourceUrl? t.kind).isSome = true
  media : ∀ name ∈ mediaAttributes, fallback.get? name = attributes.get? name
  secure : policy.requireHttps = true → ∀ url,
    attributes.get? "src" = some url ∨ (∃ t ∈ kept, sourceUrl? t.kind = some url) →
      ∀ site, policy.checkUrl site url = .ok url

/-- The replacement with the fallback in an island at its end. -/
def Replacement.tree (s : Replacement policy) : Tree :=
  .node (.ofElement replacementTag s.attributes)
    (s.kept ++ [.node (.ofElement fallbackTag .empty) [.node (.element s.tag s.fallback) s.kept]])

/-- A replacement is not a source. -/
theorem Replacement.sourceUrl?_tree (s : Replacement policy) : sourceUrl? s.tree.kind = none :=
  sourceUrl?_eq_none (isNamed_eq_false (isNamed_ofElement replacementTag s.attributes)
    (fold_ne (by decide)))

/-! ### The children that stay -/

/-- An attribute of another name does not change the URL of a source. -/
theorem sourceUrl?_set {name value : String} (h : fold "src" ≠ fold name) :
    sourceUrl? (k.mapAttributes (·.set name value)) = sourceUrl? k := by
  rw [sourceUrl?, sourceUrl?, NodeKind.isNamed_mapAttributes]
  cases k with
  | element tag a => simp [NodeKind.mapAttributes, NodeKind.attributes?, Attributes.get?_set, h]
  | document => rfl
  | text content => rfl
  | comment content => rfl

/-- A mark changes no source. -/
theorem map_sourceUrl?_markFirst (ts : List Tree) :
    (markFirst ts).map (sourceUrl? ·.kind) = ts.map (sourceUrl? ·.kind) := by
  induction ts with
  | nil => rfl
  | cons t rest ih =>
    rw [markFirst]
    split
    · obtain ⟨k, children⟩ := t
      have hname : fold "src" ≠ fold fallbackAttribute := fold_ne (by decide)
      simp only [List.map_cons, Tree.mapAttributes, Tree.kind, sourceUrl?_set hname]
    · rw [List.map_cons, List.map_cons, ih]

/-- A source that stays has the URL to use. -/
theorem sourceUrl?_of_keepTree? {t' : Tree} (h : policy.keepTree? t = some t') :
    sourceUrl? t'.kind = policy.usableUrl? t.kind := by
  obtain ⟨k, children⟩ := t
  rw [Policy.keepTree?] at h
  rw [Policy.usableUrl?]
  cases hsrc : sourceUrl? (Tree.node k children).kind with
  | none =>
    rw [hsrc] at h
    rw [← Option.some.inj h, hsrc, Option.bind_none]
  | some src =>
    rw [hsrc] at h
    cases hcheck : policy.checkUrl .alternateSource src with
    | error rejection => simp [hcheck] at h
    | ok url =>
      have ht' : Tree.node (k.mapAttributes (·.set "src" url)) children = t' := by
        simpa [hcheck, Tree.mapAttributes] using h
      -- Only an element that is called so has the URL of a source.
      have hnamed : k.isNamed sourceTag = true := by
        by_contra hne
        simp [sourceUrl?, Tree.kind, hne] at hsrc
      obtain ⟨tag, a, rfl⟩ := NodeKind.eq_element_of_isNamed hnamed
      rw [← ht', Tree.kind, sourceUrl?, NodeKind.isNamed_mapAttributes, if_pos hnamed]
      simp [NodeKind.mapAttributes, NodeKind.attributes?, Attributes.get?_set, hcheck,
        Except.toOption]

/-- The sources among the children that stay are those with a URL to use. -/
theorem exists_kept_iff {url : String} :
    (∃ t ∈ markFirst (ts.filterMap policy.keepTree?), sourceUrl? t.kind = some url) ↔
      ∃ t ∈ ts, policy.usableUrl? t.kind = some url := by
  have hmark : (∃ t ∈ markFirst (ts.filterMap policy.keepTree?), sourceUrl? t.kind = some url) ↔
      some url ∈ (ts.filterMap policy.keepTree?).map (sourceUrl? ·.kind) := by
    rw [← map_sourceUrl?_markFirst, List.mem_map]
  rw [hmark, List.mem_map]
  constructor
  · rintro ⟨t', ht', hurl⟩
    obtain ⟨t, ht, hkeep⟩ := List.mem_filterMap.mp ht'
    exact ⟨t, ht, by rw [← sourceUrl?_of_keepTree? hkeep, hurl]⟩
  · rintro ⟨t, ht, hurl⟩
    -- A source with a URL to use has no issue, so it stays.
    have hissue : policy.sourceIssue? t.kind = none := by
      cases hissue : policy.sourceIssue? t.kind with
      | none => rfl
      | some issue =>
        rw [usableUrl?_eq_none_of_issue hissue] at hurl
        cases hurl
    have hkeep := @keepTree?_eq policy t
    rw [if_pos hissue] at hkeep
    exact ⟨_, List.mem_filterMap.mpr ⟨t, ht, hkeep⟩, by rw [sourceUrl?_of_keepTree? hkeep, hurl]⟩

/-! ### Media attributes -/

/-- The attribute that is matched is that of the model, and no other changes. -/
theorem get?_matchName (m name : String) :
    (matchName model a m).get? name =
      if fold name = fold m then model.get? name else a.get? name := by
  rw [matchName]
  cases hmodel : model.get? m with
  | none =>
    dsimp only
    rw [Attributes.get?_erase]
    split
    · rename_i hname
      rw [Attributes.get?_congr hname, hmodel]
    · rfl
  | some value =>
    dsimp only
    rw [Attributes.get?_set]
    split
    · rename_i hname
      rw [Attributes.get?_congr hname, hmodel]
    · rfl

/-- The attributes that refer to media have the values that they have in the model. -/
theorem get?_matchMedia {name : String} (hname : name ∈ mediaAttributes) :
    (matchMedia model a).get? name = model.get? name := by
  -- A name that is still to come gets its value, and one that has it already keeps it.
  have key : ∀ (names : List String) (a : Attributes),
      a.get? name = model.get? name ∨ name ∈ names →
      (names.foldl (matchName model) a).get? name = model.get? name := by
    intro names
    induction names with
    | nil =>
      intro a hvalue
      simpa using hvalue
    | cons m rest ih =>
      intro a hvalue
      refine ih _ ?_
      rw [get?_matchName]
      by_cases hm : fold name = fold m
      · exact .inl (if_pos hm)
      · rw [if_neg hm]
        rcases hvalue with hvalue | hmem
        · exact .inl hvalue
        · rcases List.mem_cons.mp hmem with rfl | hmem
          · exact absurd rfl hm
          · exact .inr hmem
  exact key mediaAttributes a (.inr hname)

/-! ### The replacement -/

/-- An element is only replaced if there is something to play. -/
theorem source_of_usable
    (h : (a.contains "src" || ts.any policy.isUsableSource) = true) :
    (a.get? "src").isSome = true ∨
      ∃ t ∈ markFirst (ts.filterMap policy.keepTree?), (sourceUrl? t.kind).isSome = true := by
  rw [Bool.or_eq_true, Attributes.contains_eq_isSome_get?, List.any_eq_true] at h
  rcases h with hown | ⟨u, hu, husable⟩
  · exact .inl hown
  · rw [isUsableSource_eq, Option.isSome_iff_exists] at husable
    obtain ⟨url, hurl⟩ := husable
    obtain ⟨t, ht, hsource⟩ := exists_kept_iff.mpr ⟨u, hu, hurl⟩
    exact .inr ⟨t, ht, by rw [hsource, Option.isSome_some]⟩

/-- A URL to use is what the check has made of a URL. -/
theorem exists_checkUrl_of_usableUrl? {url : String} (h : policy.usableUrl? k = some url) :
    ∃ src, policy.checkUrl .alternateSource src = .ok url := by
  rw [Policy.usableUrl?, Option.bind_eq_some_iff] at h
  obtain ⟨src, -, h⟩ := h
  refine ⟨src, ?_⟩
  cases hcheck : policy.checkUrl .alternateSource src with
  | error rejection => simp [hcheck, Except.toOption] at h
  | ok used =>
    have hused : used = url := by simpa [hcheck, Except.toOption] using h
    rw [hused]

/-- Whatever is left to be played is accepted as it stands. -/
theorem secure_of_filter (hhttps : policy.requireHttps = true) {url : String}
    (h : (policy.filter audioRules a).get? "src" = some url ∨
      ∃ t ∈ markFirst (ts.filterMap policy.keepTree?), sourceUrl? t.kind = some url)
    (site : UrlSite) : policy.checkUrl site url = .ok url := by
  rcases h with hown | hkept
  · exact checkUrl_of_checkUrl hhttps (checkUrl_of_get?_filter hown) site
  · obtain ⟨t, -, husable⟩ := exists_kept_iff.mp hkept
    obtain ⟨src, hcheck⟩ := exists_checkUrl_of_usableUrl? husable
    exact checkUrl_of_checkUrl hhttps hcheck site

/-- An audio element is replaced by such a tree, if it is replaced at all. -/
theorem exists_replacement (hk : k.isNamed audioTag = true)
    (ht : t ∈ policy.replaceTree k ts) : ∃ s : Replacement policy, t = s.tree ∧
      s.kept = markFirst (ts.filterMap policy.keepTree?) := by
  obtain ⟨tag, b, rfl⟩ := NodeKind.eq_element_of_isNamed hk
  rw [Policy.replaceTree, NodeKind.attributes?, Option.getD_some] at ht
  dsimp only at ht
  split at ht
  · rename_i husable
    have hsrc : ((policy.filter audioRules b).set "width" "auto").get? "src" =
        (policy.filter audioRules b).get? "src" := by
      rw [Attributes.get?_set, if_neg (fold_ne (by decide))]
    let s : Replacement policy := {
      attributes := (policy.filter audioRules b).set "width" "auto"
      kept := markFirst (ts.filterMap policy.keepTree?)
      tag := tag
      fallback := matchMedia ((policy.filter audioRules b).set "width" "auto") b
      named := hk
      width := by rw [Attributes.get?_set, if_pos rfl]
      source := by
        rw [hsrc]
        exact source_of_usable husable
      media := fun name hname => get?_matchMedia hname
      secure := by
        rw [hsrc]
        exact fun hhttps _ hurl => secure_of_filter hhttps hurl }
    exact ⟨s, List.mem_singleton.mp ht, rfl⟩
  · exact absurd ht List.not_mem_nil

/-- The replacement with a mark of its own. -/
def Replacement.mark (s : Replacement policy) : Replacement policy :=
  have hget : ∀ {name}, fold name ≠ fold fallbackAttribute →
      (s.attributes.set fallbackAttribute "").get? name = s.attributes.get? name := fun hname => by
    rw [Attributes.get?_set, if_neg hname]
  have hsrc : (s.attributes.set fallbackAttribute "").get? "src" = s.attributes.get? "src" :=
    hget (fold_ne (by decide))
  have hmedia : ∀ name ∈ mediaAttributes, fold name ≠ fold fallbackAttribute := by
    have hall : ∀ name ∈ mediaAttributes,
        sameFoldChars name.toList fallbackAttribute.toList = false := by decide
    exact fun name hname => fold_ne (hall name hname)
  { s with
    attributes := s.attributes.set fallbackAttribute ""
    width := (hget (fold_ne (by decide))).trans s.width
    source := hsrc ▸ s.source
    media := fun name hname => (s.media name hname).trans (hget (hmedia name hname)).symm
    secure := hsrc ▸ s.secure }

theorem Replacement.tree_mark (s : Replacement policy) :
    s.mark.tree = s.tree.mapAttributes (·.set fallbackAttribute "") := rfl

end Conversion

end AmpMarkup
