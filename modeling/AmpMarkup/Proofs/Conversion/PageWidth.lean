import AmpMarkup.Conversion.PageWidth
import AmpMarkup.Proofs.Conversion.Filter
import AmpMarkup.Proofs.Conversion.Verdicts
import AmpMarkup.Proofs.Document.Alike

namespace AmpMarkup

open AmpMarkup.Text
open Document (Alike)

/-!
# What the width of the page can change

Two policies that differ in the width of the page make replacements that differ in the position of
one entry. The conversion never looks at that entry again, so it goes the same way under both: the
handles are the same, the decisions are the same, and the documents stay alike.

* `without_filter` — the rules leave the same attributes, apart from the width.
* `Twins B` — replacements of the same element, with attributes in `B`, under both policies.
* `tracks_gatherChild`, `tracks_replaceElement`, `follows_convert` — the conversion side by side.
* `alike_visits` — all visits side by side.
* `reachable_page_width_immaterial` — what that means for documents with a history.
-/

variable {E : Set Nat} {B : Set Attributes} {d d' d₁ d₁' : Document} {n c f : NodeId}

namespace Conversion

open Edit

variable {policy policy' : Policy}

/-! ### Rules -/

/-- Reading a URL depends on whether HTTPS is required, and on nothing else of the policy. -/
theorem checkUrl_congr (h : policy'.requireHttps = policy.requireHttps) :
    policy'.checkUrl = policy.checkUrl := by
  funext site raw
  simp only [Policy.checkUrl, Policy.checkTrimmed, h]

/-- Only an attribute of that name is a width. -/
theorem fold_of_ruleFor_width {name : String} (h : ruleFor audioRules name = .length .width) :
    fold name = fold "width" := by
  have honly : ∀ e ∈ audioRules, e.2 = .length .width → e.1 = "width" := by decide
  rw [ruleFor] at h
  split at h
  · rename_i e hfind
    have hsame : sameFold e.1 name = true := by simpa using List.find?_some hfind
    rw [honly e (List.mem_of_find?_eq_some hfind) h, sameFold_iff] at hsame
    exact hsame.symm
  · cases h

/-- The rules leave the same attributes, apart from the width. -/
theorem without_filter (h : policy'.requireHttps = policy.requireHttps) (b : Attributes) :
    (policy'.filter audioRules b).without "width" =
      (policy.filter audioRules b).without "width" := by
  rw [Policy.filter, Policy.filter, Attributes.without_ofList, Attributes.without_ofList,
    List.filter_filterMap, List.filter_filterMap]
  refine congrArg Attributes.ofList (List.filterMap_congr fun e _ => ?_)
  unfold Policy.filterEntry?
  rw [checkUrl_congr h]
  cases hrule : ruleFor audioRules e.1 with
  | length axis =>
    cases axis with
    | height => rfl
    | width =>
      -- Whatever the width has become, it does not count here.
      have hdrop : ∀ value? : Option String,
          (value?.map (e.1, ·)).filter (fun e => fold e.1 ≠ fold "width") = none := by
        intro value?
        cases value? with
        | none => rfl
        | some value => simp [fold_of_ruleFor_width hrule]
      dsimp only
      rw [hdrop, hdrop]
  | _ => rfl

/-- A filtered attribute that is not the width is the same under both policies. -/
theorem get?_filter_congr (h : policy'.requireHttps = policy.requireHttps) (b : Attributes)
    {name : String} (hname : fold name ≠ fold "width") :
    (policy'.filter audioRules b).get? name = (policy.filter audioRules b).get? name := by
  rw [← Attributes.get?_without hname, without_filter h, Attributes.get?_without hname]

/-! ### Replacements under both policies -/

/-- The attributes of replacements for the same element, whose attributes are in `B`, and with the
    same mark. -/
def Twins (policy policy' : Policy) (B : Set Attributes) (name : String) (a a' : Attributes) :
    Prop :=
  name = fold replacementTag ∧ ∃ b ∈ B,
    (a = policy.replacementAttributes b ∧ a' = policy'.replacementAttributes b) ∨
    (a = (policy.replacementAttributes b).set fallbackAttribute "" ∧
      a' = (policy'.replacementAttributes b).set fallbackAttribute "")

namespace Twins

variable {name : String} {a a' b : Attributes}

/-- Replacements of elements in a set are replacements of elements in any larger set. -/
theorem mono {B' : Set Attributes} (h : Twins policy policy' B name a a') (hB : B ⊆ B') :
    Twins policy policy' B' name a a' := by
  obtain ⟨hname, b, hb, hcases⟩ := h
  exact ⟨hname, b, hB hb, hcases⟩

/-- Two fresh replacements of one element, one under each policy, are twins. -/
theorem new (hb : b ∈ B) : Twins policy policy' B (fold replacementTag)
    (policy.replacementAttributes b) (policy'.replacementAttributes b) :=
  ⟨rfl, b, hb, .inl ⟨rfl, rfl⟩⟩

/-- A mark changes nothing about that, be it the first or not. -/
theorem mark (h : Twins policy policy' B name a a') :
    Twins policy policy' B name (a.set fallbackAttribute "") (a'.set fallbackAttribute "") := by
  obtain ⟨hname, b, hb, ⟨rfl, rfl⟩ | ⟨rfl, rfl⟩⟩ := h
  · exact ⟨hname, b, hb, .inr ⟨rfl, rfl⟩⟩
  · rw [Attributes.set_set, Attributes.set_set]
    exact ⟨hname, b, hb, .inr ⟨rfl, rfl⟩⟩

/-- Twins replace the same element, each under its own policy. -/
theorem isReplacementOf (h : Twins policy policy' B name a a') :
    ∃ b ∈ B, policy.IsReplacementOf b a ∧ policy'.IsReplacementOf b a' := by
  obtain ⟨-, b, hb, ⟨ha, ha'⟩ | ⟨ha, ha'⟩⟩ := h
  · exact ⟨b, hb, .inl ha, .inl ha'⟩
  · exact ⟨b, hb, .inr ha, .inr ha'⟩

/-- A replacement is no source, whatever its attributes are. -/
theorem sourceUrl?_eq_none (h : Twins policy policy' B name a a') (x : Attributes) :
    sourceUrl? (.element name x) = none := by
  apply Conversion.sourceUrl?_eq_none
  rw [h.1]
  exact isNamed_eq_false (isNamed_ofElement replacementTag x) (fold_ne (by decide))

/-- They are the same apart from the width. -/
theorem without_eq (h : Twins policy policy' B name a a')
    (hhttps : policy'.requireHttps = policy.requireHttps) :
    a'.without "width" = a.without "width" := by
  have hmade : ∀ b, (policy'.replacementAttributes b).without "width" =
      (policy.replacementAttributes b).without "width" := by
    intro b
    rw [Policy.replacementAttributes, Policy.replacementAttributes, Attributes.without_set,
      Attributes.without_set, if_pos rfl, if_pos rfl, without_filter hhttps]
  have hmark : fold fallbackAttribute ≠ fold "width" := fold_ne (by decide)
  obtain ⟨-, b, -, ⟨rfl, rfl⟩ | ⟨rfl, rfl⟩⟩ := h
  · exact hmade b
  · rw [Attributes.without_set, Attributes.without_set, if_neg hmark, if_neg hmark, hmade]

/-- Twins answer alike to every name but the width. -/
theorem get?_eq (h : Twins policy policy' B name a a')
    (hhttps : policy'.requireHttps = policy.requireHttps) {m : String}
    (hm : fold m ≠ fold "width") : a'.get? m = a.get? m := by
  rw [← Attributes.get?_without hm, h.without_eq hhttps, Attributes.get?_without hm]

end Twins

/-- Every replacement has the width `auto`. -/
theorem width_of_isReplacementOf {b a : Attributes} (h : policy.IsReplacementOf b a) :
    a.get? "width" = some "auto" := by
  have hwidth : (policy.replacementAttributes b).get? "width" = some "auto" := by
    rw [Policy.replacementAttributes, Attributes.get?_set, if_pos rfl]
  have hmark : fold "width" ≠ fold fallbackAttribute := fold_ne (by decide)
  rcases h with rfl | rfl
  · exact hwidth
  · rw [Attributes.get?_set, if_neg hmark, hwidth]

/-- So replacements of the same element differ in the position of that entry only. -/
theorem movedEntry_of_twins {name : String} {a a' : Attributes}
    (h : Twins policy policy' B name a a') (hhttps : policy'.requireHttps = policy.requireHttps) :
    MovedEntry ("width", "auto") a.entries a'.entries := by
  obtain ⟨b, -, hb, hb'⟩ := h.isReplacementOf
  have hname : fold "width" = "width" := fold_eq_self (by decide)
  obtain ⟨hmem, herase⟩ := Attributes.erase_entries (width_of_isReplacementOf hb)
  obtain ⟨hmem', herase'⟩ := Attributes.erase_entries (width_of_isReplacementOf hb')
  rw [hname] at hmem herase hmem' herase'
  exact ⟨hmem, hmem', by rw [herase, herase', h.without_eq hhttps]⟩

/-! ### Readings -/

section Readings

variable (h : Alike E (Twins policy policy' B) d d')
include h

/-- Replacements are no sources, and the kinds of all other nodes are the same. -/
theorem bind_sourceUrl?_eq (n : NodeId) :
    (d'.kind? n).bind sourceUrl? = (d.kind? n).bind sourceUrl? := by
  rcases h.kind?_cases n with ⟨hk, hk'⟩ | ⟨k, k', hk, hk', halike⟩
  · rw [hk, hk']
  · rw [hk, hk', Option.bind_some, Option.bind_some]
    cases halike with
    | same _ => rfl
    | element ha => rw [ha.sourceUrl?_eq_none, ha.sourceUrl?_eq_none]

/-- Alike documents agree on what counts as content of a fallback. -/
theorem any_isFallbackContent_eq (n : NodeId) :
    (d'.kind? n).any isFallbackContent = (d.kind? n).any isFallbackContent := by
  rcases h.kind?_cases n with ⟨hk, hk'⟩ | ⟨k, k', hk, hk', halike⟩
  · rw [hk, hk']
  · rw [hk, hk', Option.any_some, Option.any_some, isFallbackContent, isFallbackContent,
      halike.tagName?_eq, halike.isNamed_eq, halike.isNamed_eq]

/-- All attributes but the width are read off both documents. -/
theorem attribute?_eq (hhttps : policy'.requireHttps = policy.requireHttps) (n : NodeId)
    {name : String} (hname : fold name ≠ fold "width") :
    d'.attribute? n name = d.attribute? n name := by
  rw [Document.attribute?, Document.attributes?, Document.attribute?, Document.attributes?]
  rcases h.kind?_cases n with ⟨hk, hk'⟩ | ⟨k, k', hk, hk', halike⟩
  · rw [hk, hk']
  · rw [hk, hk', Option.bind_some, Option.bind_some]
    cases halike with
    | same _ => rfl
    | element ha => exact ha.get?_eq hhttps hname

end Readings

/-! ### Children -/

/-- What is known of the children of an element with the attributes `b` under both policies. -/
def Beside (policy policy' : Policy) (b : Attributes) (g g' : Gathered) : Prop :=
  g.attributes = policy.filter audioRules b ∧
    g' = { g with attributes := policy'.filter audioRules b }

section Steps

variable {b : Attributes} {g g' : Gathered}

/-- Keeping a child goes the same way in both documents, and a mark is set in both or in neither. -/
theorem tracks_keepChild (hg : Beside policy policy' b g g') (c : NodeId) :
    Tracks (Alike E (Twins policy policy' B)) (Beside policy policy' b) (keepChild g c)
      (keepChild g' c) := by
  obtain ⟨hattributes, rfl⟩ := hg
  refine Tracks.get_bind fun d d' h => ?_
  dsimp only
  rw [any_isFallbackContent_eq h]
  split
  · refine ((follows_modifyAttributes h fun name a a' _ _ ha => ha.mark).orThrow _ _).bind ?_
    rintro a b d₁ d₁' ⟨-, h₁⟩
    exact Follows.pure ⟨⟨hattributes, rfl⟩, h₁⟩
  · exact Follows.pure ⟨⟨hattributes, rfl⟩, h⟩

/-- Gathering a child goes the same way: a source is judged by its URL, which no width changes. -/
theorem tracks_gatherChild (hhttps : policy'.requireHttps = policy.requireHttps)
    (hg : Beside policy policy' b g g') (c : NodeId) :
    Tracks (Alike E (Twins policy policy' B)) (Beside policy policy' b) (policy.gatherChild g c)
      (policy'.gatherChild g' c) := by
  refine Tracks.get_bind fun d d' h => ?_
  rw [bind_sourceUrl?_eq h]
  cases hsrc : (d.kind? c).bind sourceUrl? with
  | none => exact tracks_keepChild hg c d d' h
  | some src =>
    obtain ⟨hattributes, rfl⟩ := hg
    dsimp only
    rw [checkUrl_congr hhttps]
    cases hcheck : policy.checkUrl .alternateSource src with
    | error rejection =>
      refine Tracks.bind_eq ((tracks_discard c).orThrow _ _) (fun _ => ?_) d d' h
      exact Tracks.pure ⟨hattributes, rfl⟩
    | ok url =>
      refine ((follows_modifyAttributes h fun name a a' hk _ ha => ?_).orThrow _ _).bind ?_
      · rw [hk, Option.bind_some, ha.sourceUrl?_eq_none] at hsrc
        cases hsrc
      · rintro _ _ d₁ d₁' ⟨-, h₁⟩
        -- The attributes have been filtered before.
        refine tracks_keepChild ⟨?_, ?_⟩ c d₁ d₁' h₁
        · dsimp only
          rw [hattributes, filter_audioRules_filter]
        · dsimp only
          rw [filter_audioRules_filter]

/-! ### The last steps -/

/-- Putting a child under the replacement, and its copy under the fallback, goes the same way. -/
theorem tracks_adoptChild (f r c : NodeId) :
    Tracks (Alike E (Twins policy policy' B)) Eq (adoptChild f r c) (adoptChild f r c) :=
  Tracks.bind_eq (tracks_cloneNode c true) fun copy =>
    Tracks.bind_eq (tracks_appendChild f copy) fun _ => tracks_appendChild r c

/-- The fallback is the same in both documents, so it takes on the same attributes. -/
theorem tracks_matchAttribute (hhttps : policy'.requireHttps = policy.requireHttps)
    (hf : f.index ∈ E) (r : NodeId) {name : String} (hname : fold name ≠ fold "width") :
    Tracks (Alike E (Twins policy policy' B)) Eq (matchAttribute r f name)
      (matchAttribute r f name) := by
  refine Tracks.get_bind fun d d' h => ?_
  rw [attribute?_eq h hhttps r hname]
  cases d.attribute? r name with
  | some value => exact follows_modifyAttributes h fun _ _ _ _ hout => absurd hf hout
  | none =>
    refine Follows.bind
      (P := fun a b d₁ d₁' => a = b ∧ Alike E (Twins policy policy' B) d₁ d₁') ?_ ?_
    · have herase := follows_modifyAttributes (f := (·.erase name)) h
        fun _ _ _ _ hout => absurd hf hout
      refine herase.bind fun _ _ d₁ d₁' ⟨_, h₁⟩ => Follows.pure ⟨?_, h₁⟩
      exact (attribute?_eq h hhttps f hname).symm
    · exact fun _ _ d₁ d₁' ⟨_, h₁⟩ => Follows.pure ⟨rfl, h₁⟩

/-- Removing an element depends only on the children that are known, and these are the same. -/
theorem tracks_removeElement (hg : Beside policy policy' b g g') (n f : NodeId) :
    Tracks (Alike E (Twins policy policy' B)) Eq (removeElement n f g) (removeElement n f g') := by
  obtain ⟨-, rfl⟩ := hg
  exact Tracks.bind_eq (Tracks.forM fun c _ => tracks_discard c) fun _ =>
    Tracks.bind_eq (tracks_discard f) fun _ =>
      Tracks.bind_eq (tracks_discard n) fun _ => Tracks.pure rfl

/-- Replacing an element makes the same handles and adds one pair of twins to the documents. -/
theorem tracks_replaceElement (hhttps : policy'.requireHttps = policy.requireHttps)
    (hg : Beside policy policy' b g g') (hb : b ∈ B) (hf : f.index ∈ E) (n : NodeId) :
    Tracks (Alike E (Twins policy policy' B)) (fun o o' => o = o' ∧ ∃ r, o.1 = .replaced r)
      (replaceElement n f g (g.attributes.set "width" "auto"))
      (replaceElement n f g' (g'.attributes.set "width" "auto")) := by
  obtain ⟨hattributes, rfl⟩ := hg
  rw [hattributes]
  have hmedia : ∀ name ∈ mediaAttributes, fold name ≠ fold "width" := by
    have hall : ∀ name ∈ mediaAttributes, sameFoldChars name.toList "width".toList = false := by
      decide
    exact fun name hname => fold_ne (hall name hname)
  refine Tracks.bind_eq (tracks_create (.element (Twins.new hb))) fun r => ?_
  refine Tracks.bind_eq (Tracks.forM fun c _ => tracks_adoptChild f r c) fun _ => ?_
  refine Tracks.bind_eq (Tracks.forM fun name hname => ?_) fun _ => ?_
  · exact tracks_matchAttribute hhttps hf r (hmedia name hname)
  · exact Tracks.bind_eq (tracks_wrapWithFallback n r f) fun _ =>
      Tracks.bind_eq (tracks_discard n) fun _ => Tracks.pure ⟨rfl, r, rfl⟩

end Steps

/-! ### One element -/

/-- `B`, with `b` if there is a replacement now. -/
def Outcome.addTo (b : Attributes) (B : Set Attributes) : Outcome → Set Attributes
  | replaced _ => insert b B
  | removed | skipped => B

/-- The set never loses attributes. -/
theorem Outcome.subset_addTo (o : Outcome) (b : Attributes) (B : Set Attributes) :
    B ⊆ o.addTo b B := by
  cases o with
  | replaced r => exact Set.subset_insert b B
  | removed => exact subset_rfl
  | skipped => exact subset_rfl

/-- Documents stay alike when fewer nodes have to be equal and more attributes are allowed. -/
theorem alike_mono {E' : Set Nat} {B' : Set Attributes}
    (h : Alike E (Twins policy policy' B) d d') (hE : E' ⊆ E) (hB : B ⊆ B') :
    Alike E' (Twins policy policy' B') d d' :=
  h.mono hE fun _ _ _ ha => ha.mono hB

section Elements

variable {b : Attributes} (hhttps : policy'.requireHttps = policy.requireHttps)
  (h : Alike E (Twins policy policy' B) d d')
include hhttps h

/-- Rebuilding an element comes to the same outcome: the two filters agree on whether it has a
    URL. -/
theorem follows_rebuild (hf : f.index ∈ E) (n : NodeId) (b : Attributes)
    (children : List NodeId) :
    Follows (fun o o' d₁ d₁' => o = o' ∧ Alike E (Twins policy policy' (o.1.addTo b B)) d₁ d₁')
      (policy.rebuild n f (policy.filter audioRules b) children)
      (policy'.rebuild n f (policy'.filter audioRules b) children) d d' := by
  have hsrc : (policy'.filter audioRules b).contains "src" =
      (policy.filter audioRules b).contains "src" := by
    rw [Attributes.contains_eq_isSome_get?, Attributes.contains_eq_isSome_get?,
      get?_filter_congr hhttps b (fold_ne (by decide))]
  rw [Policy.rebuild, Policy.rebuild, hsrc]
  refine Follows.bind (Tracks.foldlM (fun g g' hg c _ => tracks_gatherChild hhttps hg c)
    ⟨rfl, rfl⟩ d d' h) ?_
  rintro g g' d₁ d₁' ⟨hg, h₁⟩
  have hsources : g'.sources = g.sources := by rw [hg.2]
  rw [hsources]
  split
  · refine ((tracks_removeElement hg n f d₁ d₁' h₁).orThrow _ _).mono ?_
    rintro o o' d₂ d₂' ⟨heq, h₂⟩
    exact ⟨heq, alike_mono h₂ subset_rfl (o.1.subset_addTo b B)⟩
  · have hinsert := alike_mono h₁ subset_rfl (Set.subset_insert b B)
    refine ((tracks_replaceElement hhttps hg (Set.mem_insert b B) hf n d₁ d₁' hinsert).orThrow
      _ _).mono ?_
    rintro o o' d₂ d₂' ⟨⟨heq, r, hr⟩, h₂⟩
    refine ⟨heq, ?_⟩
    rw [hr]
    exact h₂

/-- An element that is the same in both documents is converted in the same way under both
    policies. -/
theorem follows_convert (hn : n.index ∈ E) (hb : d.attributes? n = some b) :
    Follows (fun o o' d₁ d₁' => o = o' ∧ Alike E (Twins policy policy' (o.1.addTo b B)) d₁ d₁')
      (policy.convert n) (policy'.convert n) d d' := by
  have hb' : d'.attributes? n = some b := by
    rw [Document.attributes?, h.kind?_eq_of_mem hn, ← Document.attributes?, hb]
  refine Follows.get_bind ?_
  rw [h.isConnected_eq, h.isInFallbackIsland_eq]
  split
  · exact Follows.pure ⟨rfl, h⟩
  · dsimp only
    rw [hb, hb', Option.getD_some]
    refine ((follows_cloneNode_shallow h hn).orThrow _ _).bind ?_
    rintro f _ d₁ d₁' ⟨rfl, h₁⟩
    refine ((tracks_detachChildren n d₁ d₁' h₁).orThrow _ _).bind ?_
    rintro children _ d₂ d₂' ⟨rfl, h₂⟩
    refine Follows.tryCatch ((follows_rebuild hhttps h₂ (Set.mem_insert _ _) n b children).mono ?_)
      ?_
    · rintro o o' d₃ d₃' ⟨heq, h₃⟩
      exact ⟨heq, alike_mono h₃ (Set.subset_insert _ _) subset_rfl⟩
    · intro e d a d₁ hrun
      obtain ⟨_, _, -, hthrow⟩ := run_bind_eq_ok hrun
      cases hthrow

end Elements

/-! ### All elements -/

/-- The attributes of the elements that have been replaced. -/
def replacedAttributes (d : Document) (os : List (NodeId × Outcome)) : Set Attributes :=
  {b | ∃ n r, (n, .replaced r) ∈ os ∧ d.attributes? n = some b}

/-- One outcome more adds no attributes but those of an element that has been replaced. -/
theorem addTo_replacedAttributes {b : Attributes} (hb : d.attributes? n = some b)
    (o : Outcome) (os : List (NodeId × Outcome)) :
    o.addTo b (replacedAttributes d os) ⊆ replacedAttributes d (os ++ [(n, o)]) := by
  have hold : replacedAttributes d os ⊆ replacedAttributes d (os ++ [(n, o)]) := by
    rintro b ⟨m, r, hm, hbm⟩
    exact ⟨m, r, List.mem_append_left _ hm, hbm⟩
  cases o with
  | replaced r =>
    refine Set.insert_subset ?_ hold
    exact ⟨n, r, List.mem_append_right _ (List.mem_singleton_self _), hb⟩
  | removed => exact hold
  | skipped => exact hold

/-- So are several elements, one after the other: those that are left are as they were at first. -/
theorem alike_visits (hhttps : policy'.requireHttps = policy.requireHttps) {ns : List NodeId}
    (report : Report) (hwf : d₁.WellFormed) (hv : Visitable d₁ ns)
    (hold : ∀ n ∈ ns, n.index ∈ E ∧ d₁.kind? n = d.kind? n)
    (h : Alike E (Twins policy policy' (replacedAttributes d report.outcomes)) d₁ d₁') :
    (ns.foldl policy'.convertOne (report, d₁')).1 = (ns.foldl policy.convertOne (report, d₁)).1 ∧
    Alike E (Twins policy policy'
        (replacedAttributes d (ns.foldl policy.convertOne (report, d₁)).1.outcomes))
      (ns.foldl policy.convertOne (report, d₁)).2
      (ns.foldl policy'.convertOne (report, d₁')).2 := by
  induction ns generalizing report d₁ d₁' with
  | nil =>
    rw [List.foldl_nil, List.foldl_nil]
    exact ⟨rfl, h⟩
  | cons n rest ih =>
    obtain ⟨outcome, d₂, hrun, -, hvisited⟩ := run_convert_visitable policy hwf hv
    obtain ⟨hnE, hkn⟩ := hold n List.mem_cons_self
    obtain ⟨k, hk, hnamed⟩ := Document.kind_of_isElementNamed (hv.named n List.mem_cons_self)
    obtain ⟨tag, b, rfl⟩ := NodeKind.eq_element_of_isNamed hnamed
    have hb : d₁.attributes? n = some b := Document.attributes?_of_kind? hk
    have hb₀ : d.attributes? n = some b := Document.attributes?_of_kind? (hkn ▸ hk)
    obtain ⟨_, d₂', hrun', rfl, h₂⟩ := follows_convert hhttps h hnE hb _ _ hrun
    have hstep : policy.convertOne (report, d₁) n =
        (report.add n outcome (policy.issuesOf d₁ n), d₂) := by rw [Policy.convertOne, hrun]
    have hstep' : policy'.convertOne (report, d₁') n =
        (report.add n outcome (policy.issuesOf d₁ n), d₂') := by rw [Policy.convertOne, hrun']
    rw [List.foldl_cons, List.foldl_cons, hstep, hstep']
    refine ih _ (hvisited.wellFormed hwf) (hvisited.visitable hwf hv) (fun m hm => ?_) ?_
    · obtain ⟨hmE, hkm⟩ := hold m (List.mem_cons_of_mem n hm)
      exact ⟨hmE, (hvisited.kind_eq hv hm).trans hkm⟩
    · have hadd : outcome.addTo b (replacedAttributes d report.outcomes) ⊆
          replacedAttributes d (report.add n outcome (policy.issuesOf d₁ n)).outcomes :=
        addTo_replacedAttributes hb₀ outcome report.outcomes
      exact alike_mono h₂ subset_rfl hadd

/-- Whatever the history of a document: two policies that differ in the width of the page only give
    the same report, and documents with the same slots, except that among the attributes of a
    replacement of the conversion, or of a copy of one, the width may stand at another position. -/
theorem reachable_page_width_immaterial (h : Reachable d)
    (hhttps : policy'.requireHttps = policy.requireHttps) :
    (policy'.convertAudio d).1 = (policy.convertAudio d).1 ∧
    (policy'.convertAudio d).2.size = (policy.convertAudio d).2.size ∧
    ∀ (i : Nat) (s s' : Slot), (policy.convertAudio d).2.slots[i]? = some s →
      (policy'.convertAudio d).2.slots[i]? = some s' →
      s' = s ∨ d.size ≤ i ∧ ∃ n r b, (n, .replaced r) ∈ (policy.convertAudio d).1.outcomes ∧
        d.attributes? n = some b ∧ SameReplacement policy policy' b s s' := by
  have hwf := h.wellFormed
  have hv := visitable_elementsNamed hwf
  obtain ⟨hreport, halike⟩ := alike_visits hhttps (E := {i | i < d.size}) {} hwf hv
    (fun n hn => ⟨Document.index_lt_of_contains (hv.contains hn), rfl⟩) (Document.alike_refl _ d)
  refine ⟨hreport, halike.size_eq, fun i s s' hs hs' => ?_⟩
  obtain ⟨k, hk, hkind, hsame⟩ := halike.slot i s hs
  rw [show (policy'.convertAudio d).2.slots[i]? = _ from hk, Option.some.injEq] at hs'
  subst hs'
  by_cases hi : i < d.size
  · exact .inl (by rw [hsame hi])
  · obtain ⟨kind, parent?, children, live⟩ := s
    dsimp only at hkind ⊢
    cases hkind with
    | same _ => exact .inl rfl
    | @element name a a' ha =>
      obtain ⟨b, ⟨n, r, hr, hb⟩, hmade, hmade'⟩ := ha.isReplacementOf
      obtain rfl : name = fold replacementTag := ha.1
      exact .inr ⟨Nat.le_of_not_lt hi, n, r, b, hr, hb, a, a', rfl, rfl, hmade, hmade',
        movedEntry_of_twins ha hhttps⟩

/-- A percentage that only one of the policies understands; the replacement inside is copied. -/
theorem reachable_page_width_immaterial_of_percentage :
    let d := Markup.readMarkup
      "<audio src=https://a.b/c><audio width=50% src=https://a.b/d></audio></audio>"
    let policy : Policy := {}
    let policy' : Policy := { contentMaxWidth? := some 640 }
    Reachable d ∧
    (policy'.convertAudio d).2.attributes? ⟨8⟩ ≠ (policy.convertAudio d).2.attributes? ⟨8⟩ ∧
    (policy'.convertAudio d).1 = (policy.convertAudio d).1 ∧
    (policy'.convertAudio d).2.size = (policy.convertAudio d).2.size ∧
    ∀ (i : Nat) (s s' : Slot), (policy.convertAudio d).2.slots[i]? = some s →
      (policy'.convertAudio d).2.slots[i]? = some s' →
      s' = s ∨ d.size ≤ i ∧ ∃ n r b, (n, .replaced r) ∈ (policy.convertAudio d).1.outcomes ∧
        d.attributes? n = some b ∧ SameReplacement policy policy' b s s' := by
  intro d policy policy'
  have h : Reachable d := .read _
  have hhttps : policy'.requireHttps = policy.requireHttps := rfl
  have hmain := reachable_page_width_immaterial h hhttps
  refine ⟨h, ?_, hmain⟩
  decide +kernel

end Conversion

end AmpMarkup
